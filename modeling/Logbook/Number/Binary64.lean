import Logbook.Number.Power

/-!
# Binary floating-point numbers of 64 bits

A finite number is a whole number of *steps* of `2 ^ -1074`, the distance between the two smallest
numbers of the format. Every operation below is exact arithmetic on steps followed by one rounding
to the nearest number, a tie going to the even significand; nothing depends on a processor's own
arithmetic, so a proof can compute with the definitions.
-/

set_option autoImplicit false

namespace Logbook

/-- A finite number: `significand * 2 ^ scale` steps, with a sign. Of all the pairs that give one
number of steps the one with the least scale is taken, so two equal numbers of one sign are the
same data; the two zeros differ in their sign only. -/
structure Finite64 where
  negative : Bool
  significand : Nat
  scale : Nat
  significand_lt : significand < 2 ^ 53
  scale_le : scale ≤ 2045
  normal : scale = 0 ∨ 2 ^ 52 ≤ significand
deriving DecidableEq, Repr

/-- A number of the format: a finite one, an infinity, or no number at all. -/
inductive Binary64 where
  | nan
  | infinite (negative : Bool)
  | finite (value : Finite64)
deriving DecidableEq, Repr

/-- How many steps make one. -/
def stepsPerUnit : Nat := 2 ^ 1074

namespace Finite64

/-- The magnitude of a number, in steps. -/
def steps (x : Finite64) : Nat := x.significand * 2 ^ x.scale

/-- A number in steps. -/
def signedSteps (x : Finite64) : Int := if x.negative then -(x.steps : Int) else x.steps

/-- Zero, with a sign. -/
def zero (negative : Bool) : Finite64 := ⟨negative, 0, 0, by decide, by decide, .inl rfl⟩

instance : Inhabited Finite64 := ⟨zero false⟩

/-- The same number with the other sign. -/
def neg (x : Finite64) : Finite64 := { x with negative := !x.negative }

/-- The whole number next to a number in the direction of zero. -/
def truncate (x : Finite64) : Int := x.signedSteps.tdiv stepsPerUnit

/-- The nearest whole number; a half goes away from zero. -/
def roundHalfAway (x : Finite64) : Int :=
  let magnitude : Nat := (2 * x.steps + stepsPerUnit) / (2 * stepsPerUnit)
  if x.negative then -(magnitude : Int) else magnitude

end Finite64

/-- The quotient `num / den` as the nearest natural number; a half goes to the even neighbour. -/
def roundHalfEven (num den : Nat) : Nat :=
  let quotient := num / den
  let rest := num % den
  if den < 2 * rest ∨ (den = 2 * rest ∧ quotient % 2 = 1) then quotient + 1 else quotient

namespace Binary64

/-- The number with a given significand and scale, or infinity where the scale is too large. -/
def ofParts (negative : Bool) (significand scale : Nat) : Binary64 :=
  if h : significand < 2 ^ 53 ∧ scale ≤ 2045 ∧ (scale = 0 ∨ 2 ^ 52 ≤ significand) then
    .finite ⟨negative, significand, scale, h.1, h.2.1, h.2.2⟩
  else
    .infinite negative

/-- The number nearest to `num / den` steps. The scale is the least one that leaves no more than 53
bits to the significand; when rounding carries into a 54th bit the scale grows by one. -/
def ofSteps (negative : Bool) (num den : Nat) : Binary64 :=
  let scale := (num / den).log2 - 52
  let significand := roundHalfEven num (den * 2 ^ scale)
  if significand < 2 ^ 53 then ofParts negative significand scale
  else ofParts negative (2 ^ 52) (scale + 1)

/-- The number nearest to `num / den`. -/
def ofRatio (negative : Bool) (num den : Nat) : Binary64 :=
  ofSteps negative (num * stepsPerUnit) den

/-- The number nearest to a natural number. -/
def ofNat (n : Nat) : Binary64 := ofRatio false n 1

/-- The number nearest to an integer. -/
def ofInt (n : Int) : Binary64 := ofRatio (n < 0) n.natAbs 1

/-- The finite number, if it is one. -/
def finite? : Binary64 → Option Finite64
  | .finite x => some x
  | _ => none

/-- The number is finite. -/
def isFinite (x : Binary64) : Bool := x.finite?.isSome

/-- The product, rounded once. -/
def mul : Binary64 → Binary64 → Binary64
  | .nan, _ => .nan
  | _, .nan => .nan
  | .infinite s, .infinite t => .infinite (s != t)
  | .infinite s, .finite y => if y.steps = 0 then .nan else .infinite (s != y.negative)
  | .finite x, .infinite t => if x.steps = 0 then .nan else .infinite (x.negative != t)
  | .finite x, .finite y =>
    ofSteps (x.negative != y.negative) (x.steps * y.steps) stepsPerUnit

/-- The quotient, rounded once. -/
def div : Binary64 → Binary64 → Binary64
  | .nan, _ => .nan
  | _, .nan => .nan
  | .infinite _, .infinite _ => .nan
  | .infinite s, .finite y => .infinite (s != y.negative)
  | .finite x, .infinite t => .finite (Finite64.zero (x.negative != t))
  | .finite x, .finite y =>
    if y.steps = 0 then
      if x.steps = 0 then .nan else .infinite (x.negative != y.negative)
    else
      ofRatio (x.negative != y.negative) x.steps y.steps

/-- The order of two numbers; `nan` has no place in it, and the two zeros are equal. -/
def order? : Binary64 → Binary64 → Option Ordering
  | .nan, _ => none
  | _, .nan => none
  | .infinite s, .infinite t => some (compare t s)
  | .infinite s, .finite _ => some (if s then .lt else .gt)
  | .finite _, .infinite t => some (if t then .gt else .lt)
  | .finite x, .finite y => some (compare x.signedSteps y.signedSteps)

/-- `x` is greater than `y`; never so when one of them is `nan`. -/
def gt (x y : Binary64) : Bool := x.order? y == some .gt

end Binary64

/-! ## Whole numbers of 64 bits -/

/-- The 64-bit integer next to a given integer: itself, or the end of the range beyond which it
lies. -/
def clampInt64 (n : Int) : Int64 :=
  Int64.ofInt (max Int64.minValue.toInt (min n Int64.maxValue.toInt))

namespace Binary64

/-- The 64-bit integer obtained by cutting off the fraction: the ends of the range stand for what
lies beyond them, and zero for `nan`. -/
def toInt64 : Binary64 → Int64
  | .nan => 0
  | .infinite negative => if negative then Int64.minValue else Int64.maxValue
  | .finite x => clampInt64 x.truncate

/-- The nearest 64-bit integer, a half going away from zero, with the same ends as `toInt64`. -/
def roundToInt64 : Binary64 → Int64
  | .nan => 0
  | .infinite negative => if negative then Int64.minValue else Int64.maxValue
  | .finite x => clampInt64 x.roundHalfAway

end Binary64

end Logbook
