import Logbook.Number.Decimal

/-!
# Numbers read from free text

The grammar of a number that a person types: an optional sign, then digits with an optional point
and an optional exponent, or one of the words `inf`, `infinity` and `nan` in any case. At least one
digit stands on one of the two sides of the point.
-/

set_option autoImplicit false

namespace Logbook

/-- The sign in front of a number and what follows it. -/
def spanSign : List Char → Bool × List Char
  | '-' :: cs => (true, cs)
  | '+' :: cs => (false, cs)
  | cs => (false, cs)

/-- The exponent at the end of a number; zero where there is none. -/
def exponentOfChars? : List Char → Option Int
  | [] => some 0
  | c :: cs => if c = 'e' ∨ c = 'E' then intOfChars? cs else none

namespace Decimal

/-- A decimal without a sign. -/
def ofChars? (cs : List Char) : Option Decimal :=
  let (whole, rest) := spanDigits cs
  let (fraction, rest) :=
    match rest with
    | '.' :: rest => spanDigits rest
    | rest => ([], rest)
  if whole = [] ∧ fraction = [] then none
  else
    (exponentOfChars? rest).map fun exponent =>
      ⟨digitsValue (whole ++ fraction), exponent - fraction.length⟩

end Decimal

namespace Binary64

/-- The number that a text writes, rounded to the nearest. -/
def ofText? (text : String) : Option Binary64 :=
  let (negative, cs) := spanSign text.toList
  let word := String.ofList (cs.map Char.toLower)
  if word = "inf" ∨ word = "infinity" then some (.infinite negative)
  else if word = "nan" then some .nan
  else (Decimal.ofChars? cs).map (·.toBinary64 negative)

end Binary64

end Logbook
