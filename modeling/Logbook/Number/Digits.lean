/-!
# Decimal digits

The digits of a natural number, most significant first, and the number that a run of digits writes.
Main statements: writing and reading back is the identity (`digitsValue_digits`), and what is
written holds digits only (`isDigit_of_mem_digits`), without a zero in front
(`head?_digits_ne_zero`).
-/

set_option autoImplicit false

namespace Logbook

/-- The character of a digit. -/
def digitChar (d : Nat) : Char :=
  match d with
  | 0 => '0' | 1 => '1' | 2 => '2' | 3 => '3' | 4 => '4'
  | 5 => '5' | 6 => '6' | 7 => '7' | 8 => '8' | _ => '9'

/-- The digits of a number, without leading zeros; zero has one digit. -/
def digits (n : Nat) : List Char :=
  if n < 10 then [digitChar n] else digits (n / 10) ++ [digitChar (n % 10)]
termination_by n

/-- The number that a run of digits writes. -/
def digitsValue (cs : List Char) : Nat := cs.foldl (fun v c => 10 * v + (c.toNat - 48)) 0

/-- The digits of a number, filled up with zeros in front to a least width. -/
def paddedDigits (width n : Nat) : List Char :=
  List.replicate (width - (digits n).length) '0' ++ digits n

/-- A natural number as text. -/
def natText (n : Nat) : String := String.ofList (digits n)

/-- An integer as characters: the digits of its magnitude behind a minus where it is negative. -/
def intChars (n : Int) : List Char := if n < 0 then '-' :: digits n.natAbs else digits n.natAbs

/-- An integer as text. -/
def intText (n : Int) : String := String.ofList (intChars n)

/-- The number that a non-empty run of digits writes, if it is nothing else. -/
def natOfDigits? (cs : List Char) : Option Nat :=
  if cs ≠ [] ∧ cs.all Char.isDigit then some (digitsValue cs) else none

/-- An integer with an optional sign. -/
def intOfChars? : List Char → Option Int
  | '+' :: cs => (natOfDigits? cs).map Int.ofNat
  | '-' :: cs => (natOfDigits? cs).map fun n => -(n : Int)
  | cs => (natOfDigits? cs).map Int.ofNat

/-- A natural number with an optional plus. -/
def natOfChars? : List Char → Option Nat
  | '+' :: cs => natOfDigits? cs
  | cs => natOfDigits? cs

/-- The leading run of digits and what follows it. -/
def spanDigits (cs : List Char) : List Char × List Char :=
  (cs.takeWhile Char.isDigit, cs.dropWhile Char.isDigit)

/-! ## Laws -/

theorem digitChar_toNat {d : Nat} (h : d < 10) : (digitChar d).toNat = 48 + d := by
  match d, h with
  | 0, _ | 1, _ | 2, _ | 3, _ | 4, _ | 5, _ | 6, _ | 7, _ | 8, _ | 9, _ => rfl

theorem isDigit_digitChar (d : Nat) : (digitChar d).isDigit = true := by
  unfold digitChar
  split <;> rfl

theorem digitsValue_append_singleton (cs : List Char) (c : Char) :
    digitsValue (cs ++ [c]) = 10 * digitsValue cs + (c.toNat - 48) := by
  simp [digitsValue]

/-- The digits of a number write that number. -/
theorem digitsValue_digits (n : Nat) : digitsValue (digits n) = n := by
  induction n using Nat.strongRecOn with
  | ind n ih =>
    rw [digits]
    split
    · rename_i h
      simp [digitsValue, digitChar_toNat h]
    · rw [digitsValue_append_singleton, ih (n / 10) (by omega),
        digitChar_toNat (Nat.mod_lt n (by decide))]
      omega

/-- The digits of a number are digits. -/
theorem isDigit_of_mem_digits {n : Nat} {c : Char} (h : c ∈ digits n) : c.isDigit = true := by
  induction n using Nat.strongRecOn with
  | ind n ih =>
    rw [digits] at h
    split at h
    · rw [List.mem_singleton.1 h]
      exact isDigit_digitChar n
    · rcases List.mem_append.1 h with h | h
      · exact ih (n / 10) (by omega) h
      · rw [List.mem_singleton.1 h]
        exact isDigit_digitChar _

/-- A number has a first digit. -/
theorem digits_ne_nil (n : Nat) : digits n ≠ [] := by
  rw [digits]
  split <;> simp

/-- Only zero itself is written with a zero in front. -/
theorem head?_digits_ne_zero {n : Nat} (h : n ≠ 0) : (digits n).head? ≠ some '0' := by
  induction n using Nat.strongRecOn with
  | ind n ih =>
    rw [digits]
    split
    · rename_i hn
      intro hhead
      have hchar := congrArg Char.toNat (Option.some.inj hhead)
      rw [digitChar_toNat hn] at hchar
      exact h (Nat.add_left_cancel hchar)
    · obtain ⟨d, ds, hdigits⟩ := List.exists_cons_of_ne_nil (digits_ne_nil (n / 10))
      have ih := ih (n / 10) (by omega) (by omega)
      rw [hdigits] at ih ⊢
      exact ih

end Logbook
