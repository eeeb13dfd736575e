/-!
# Digits of base sixteen
-/

set_option autoImplicit false

namespace Logbook

/-- A digit of base sixteen, in lower case. -/
def hexDigitChar (d : Nat) : Char :=
  if d < 10 then Char.ofNat (48 + d) else Char.ofNat (87 + d)

/-- A digit of base sixteen, in upper case. -/
def hexDigitUpper (d : Nat) : Char :=
  if d < 10 then Char.ofNat (48 + d) else Char.ofNat (55 + d)

/-- The digits of a number in base sixteen, without leading zeros. -/
def hexDigits (n : Nat) : List Char :=
  if n < 16 then [hexDigitChar n] else hexDigits (n / 16) ++ [hexDigitChar (n % 16)]
termination_by n

/-- The value of a digit of base sixteen in either case. -/
def hexDigitValue? (c : Char) : Option Nat :=
  if '0' ≤ c ∧ c ≤ '9' then some (c.toNat - 48)
  else if 'a' ≤ c ∧ c ≤ 'f' then some (c.toNat - 87)
  else if 'A' ≤ c ∧ c ≤ 'F' then some (c.toNat - 55)
  else none

end Logbook
