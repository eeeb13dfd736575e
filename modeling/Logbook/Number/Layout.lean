import Logbook.Number.Decimal

/-!
# The text of a number

Which digits a number has is a matter of arithmetic (`Finite64.shortest`); how they are laid out
is a matter of the format they are written in. A `Layout` holds the decisions of one format.
-/

set_option autoImplicit false

namespace Logbook

/-- How a format writes numbers. The *point* of a number is the place of its decimal point counted
from its first digit: 1 for `3.5`, 0 for `0.35`. -/
structure Layout where
  /-- The points that are written without an exponent, from the first to the last; all of them
  where there is no bound. -/
  positional : Option (Int × Int)
  /-- What follows a number without a fraction. -/
  wholeMark : String
  /-- Which of two equally near decimals is written. -/
  tie : Tie
deriving Repr

namespace Layout

/-- The digits with the point in its place, zeros filling the gap on either side. -/
def positionalChars (layout : Layout) (ds : List Char) (point : Int) : List Char :=
  if point ≤ 0 then
    '0' :: '.' :: (List.replicate (-point).toNat '0' ++ ds)
  else if (ds.length : Int) ≤ point then
    ds ++ List.replicate (point - ds.length).toNat '0' ++ layout.wholeMark.toList
  else
    ds.take point.toNat ++ '.' :: ds.drop point.toNat

/-- One digit, a point and the other digits if there are any, and a signed exponent. -/
def scientificChars (ds : List Char) (point : Int) : List Char :=
  let exponent := point - 1
  let mantissa := if ds.length ≤ 1 then ds else ds.take 1 ++ '.' :: ds.drop 1
  mantissa ++ 'e' :: (if exponent < 0 then '-' else '+') :: digits exponent.natAbs

/-- The text of a finite number. -/
def chars (layout : Layout) (x : Finite64) : List Char :=
  let magnitude :=
    if x.significand = 0 then
      '0' :: layout.wholeMark.toList
    else
      let d := x.shortest layout.tie
      let ds := digits d.digits
      let point := (ds.length : Int) + d.exponent
      match layout.positional with
      | none => layout.positionalChars ds point
      | some (first, last) =>
        if first ≤ point ∧ point ≤ last then layout.positionalChars ds point
        else scientificChars ds point
  if x.negative then '-' :: magnitude else magnitude

/-- The text of a number; the infinities and `nan` have names of their own. -/
def text (layout : Layout) : Binary64 → String
  | .nan => "NaN"
  | .infinite negative => if negative then "-inf" else "inf"
  | .finite x => String.ofList (layout.chars x)

end Layout

end Logbook
