import Logbook.Number.Binary64
import Logbook.Number.Digits

/-!
# Decimal numbers and the binary numbers next to them

A decimal is read as the nearest binary number. Conversely the *shortest* decimal of a binary
number is the one with the fewest digits that is read back as that number. The search tries grids
of one, two, … seventeen digits; on each grid only the two neighbours of the number can be read
back. The exact expansion, which is always read back, stands at the end of the search.
-/

set_option autoImplicit false

namespace Logbook

/-- The number `digits * 10 ^ exponent`. -/
structure Decimal where
  digits : Nat
  exponent : Int
deriving DecidableEq, Repr

/-- Which of two decimals at the same distance is taken. -/
inductive Tie where
  | toEven
  | up
deriving DecidableEq, Repr

namespace Decimal

/-- Numerator of the number as a fraction. -/
def num (d : Decimal) : Nat := d.digits * 10 ^ d.exponent.toNat

/-- Denominator of the number as a fraction. -/
def den (d : Decimal) : Nat := 10 ^ (-d.exponent).toNat

/-- The nearest binary number. Decimals far beyond the range of the format are told by the place of
their first digit, so that no huge power is formed. -/
def toBinary64 (negative : Bool) (d : Decimal) : Binary64 :=
  let place : Int := (Logbook.digits d.digits).length + d.exponent
  if d.digits = 0 then .finite (Finite64.zero negative)
  else if place > 400 then .infinite negative
  else if place < -400 then .finite (Finite64.zero negative)
  else Binary64.ofRatio negative d.num d.den

/-- The same number without zeros at the end of its digits. -/
def strip (d : Decimal) : Decimal :=
  let zeros := ((Logbook.digits d.digits).reverse.takeWhile (· == '0')).length
  ⟨d.digits / 10 ^ zeros, d.exponent + zeros⟩

end Decimal

namespace Finite64

/-- Numerator of the magnitude as a fraction. -/
def num (x : Finite64) : Nat := x.significand * 2 ^ (x.scale - 1074)

/-- Denominator of the magnitude as a fraction, a power of two. -/
def den (x : Finite64) : Nat := 2 ^ (1074 - x.scale)

/-- The exact decimal expansion of the magnitude. -/
def expansion (x : Finite64) : Decimal :=
  ⟨x.num * 5 ^ (1074 - x.scale), -((1074 - x.scale : Nat) : Int)⟩

/-- The place of the first digit of a positive magnitude: the least `p` with `x < 10 ^ p`, found
around the place that the number of bits suggests. -/
def place (x : Finite64) : Int :=
  let guess : Int := ((x.num.log2 : Int) - x.den.log2) * 1233 / 4096
  let below (p : Int) : Bool := x.num * 10 ^ (-p).toNat < x.den * 10 ^ p.toNat
  ([guess - 1, guess, guess + 1, guess + 2].find? below).getD (guess + 3)

/-- The neighbours of a magnitude among the multiples of `10 ^ exponent` that are read back as the
number itself, the nearer first. -/
def neighbours (tie : Tie) (x : Finite64) (exponent : Int) : List Decimal :=
  let num := x.num * 10 ^ (-exponent).toNat
  let den := x.den * 10 ^ exponent.toNat
  let below := num / den
  let rest := num % den
  let both : List Nat :=
    if rest = 0 then [below]
    else if 2 * rest < den then [below, below + 1]
    else if 2 * rest = den ∧ tie = .toEven ∧ below % 2 = 0 then [below, below + 1]
    else [below + 1, below]
  (both.map fun n => Decimal.mk n exponent).filter fun d =>
    d.toBinary64 x.negative = .finite x

/-- The decimal with the fewest digits that is read back as the number; of two the nearer. -/
def shortest (tie : Tie) (x : Finite64) : Decimal :=
  let place := x.place
  let found := (List.range 17).findSome? fun n => (x.neighbours tie (place - (n + 1 : Nat))).head?
  (found.getD x.expansion).strip

end Finite64

end Logbook
