import Logbook.Json.Basic
import Logbook.Number.Decimal

/-!
# Numbers in JSON texts

A number without fraction and exponent is an integer while it fits 64 bits; a minus in front of
zero makes it a floating-point number. Any other number is read by *scaling*: its first digits, as
many as fit 64 bits, are rounded to a binary number, which is then multiplied or divided once by a
power of ten. Numbers that come out infinite are refused.
-/

set_option autoImplicit false

namespace Logbook

namespace Json

/-- Appends digits to a number while the result fits 64 bits; also tells how many were taken. -/
def absorb (value : Nat) : List Char → Nat × Nat
  | [] => (value, 0)
  | c :: cs =>
    let next := 10 * value + (c.toNat - 48)
    if next < 2 ^ 64 then
      let (value, taken) := absorb next cs
      (value, taken + 1)
    else
      (value, 0)

/-- The binary number nearest to a power of ten. -/
def powerOfTen (exponent : Nat) : Binary64 := Decimal.toBinary64 false ⟨1, exponent⟩

/-- A non-negative number times a power of ten. Exponents beyond the powers that the format holds
are reached by a division in two steps, or not at all. -/
def scaled (significand : Nat) (exponent : Int) : Binary64 :=
  let x := Binary64.ofNat significand
  if significand = 0 then x
  else if 308 < exponent then .infinite false
  else if 0 ≤ exponent then x.mul (powerOfTen exponent.toNat)
  else if -308 ≤ exponent then x.div (powerOfTen (-exponent).toNat)
  else
    let x := x.div (powerOfTen 308)
    if -616 ≤ exponent then x.div (powerOfTen (-exponent - 308).toNat)
    else .finite (Finite64.zero false)

/-- The number with the given digits before the point, digits after it, and exponent. -/
def float? (negative : Bool) (whole fraction : List Char) (exponent : Int) : Option Json :=
  let (significand, taken) := absorb 0 whole
  let (significand, takenAfter) := absorb significand fraction
  let exponent := exponent + (whole.length - taken : Nat) - takenAfter
  match scaled significand exponent with
  | .finite x => some (.float (if negative then x.neg else x))
  | _ => none

/-- The integer with the given digits, or the number next to it where it does not fit. -/
def integer? (negative : Bool) (whole : List Char) : Option Json :=
  let n := digitsValue whole
  if negative then
    if 0 < n ∧ n ≤ 2 ^ 63 then some (.int (-(n : Int))) else float? true whole [] 0
  else if n < 2 ^ 64 then some (.int n)
  else float? false whole [] 0

/-- The exponent in front of a text and what follows it; no exponent is zero. -/
def spanExponent? : List Char → Option (Option Int × List Char)
  | c :: cs =>
    if c = 'e' ∨ c = 'E' then
      let (negative, cs) : Bool × List Char :=
        match cs with
        | '-' :: cs => (true, cs)
        | '+' :: cs => (false, cs)
        | cs => (false, cs)
      let (ds, rest) := spanDigits cs
      if ds = [] then none
      else
        let n : Int := digitsValue ds
        some (some (if negative then -n else n), rest)
    else some (none, c :: cs)
  | [] => some (none, [])

/-- A number as it is written. -/
structure Numeral where
  negative : Bool
  whole : List Char
  fraction : Option (List Char)
  exponent : Option Int

/-- The number that a numeral stands for, unless it comes out infinite. -/
def Numeral.value? (numeral : Numeral) : Option Json :=
  match numeral.fraction, numeral.exponent with
  | none, none => integer? numeral.negative numeral.whole
  | fraction, exponent =>
    float? numeral.negative numeral.whole (fraction.getD []) (exponent.getD 0)

/-- The numeral in front of a text and what follows it. A zero in front stands alone. -/
def spanNumeral? (cs : List Char) : Option (Numeral × List Char) := do
  let (negative, cs) : Bool × List Char :=
    match cs with
    | '-' :: cs => (true, cs)
    | cs => (false, cs)
  let (whole, rest) := spanDigits cs
  if whole = [] ∨ (whole.head? = some '0' ∧ whole.length ≠ 1) then none
  let (fraction, rest) : Option (List Char) × List Char :=
    match rest with
    | '.' :: rest =>
      let (ds, rest) := spanDigits rest
      (some ds, rest)
    | rest => (none, rest)
  if fraction = some [] then none
  let (exponent, rest) ← spanExponent? rest
  some (⟨negative, whole, fraction, exponent⟩, rest)

/-- The number in front of a text and what follows it. -/
def spanNumber? (cs : List Char) : Option (Json × List Char) := do
  let (numeral, rest) ← spanNumeral? cs
  let number ← numeral.value?
  some (number, rest)

end Json

end Logbook
