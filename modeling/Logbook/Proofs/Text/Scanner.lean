import Mathlib.Data.List.TakeWhile
import Logbook.Proofs.Number.Digits
import Logbook.Text.Scanner

/-!
# Following a scanner

A scanner that is put together is followed step by step: `run_bind_of_some` and `run_bind_of_none`
take off the first step, and the others say what a single step does to the beginning of a text.
-/

set_option autoImplicit false

namespace Logbook

namespace Scanner

variable {α β : Type} {scan : Scanner α} {next : α → Scanner β} {cs rest : List Char}

theorem run_bind_of_some {a : α} (h : scan.run cs = some (a, rest)) :
    (scan >>= next).run cs = (next a).run rest := by
  rw [StateT.run_bind, h]
  rfl

theorem run_bind_of_none (h : scan.run cs = none) : (scan >>= next).run cs = none := by
  rw [StateT.run_bind, h]
  rfl

theorem run_char (c d : Char) (cs : List Char) :
    (char c).run (d :: cs) = if d = c then some ((), cs) else none := by
  show StateT.run ((fun _ => ()) <$> satisfy (· == c)) (d :: cs) = _
  rw [StateT.run_map]
  by_cases h : d = c
  · simp [StateT.run, satisfy, h]
  · simp [StateT.run, satisfy, h]

theorem run_accept_self (c : Char) (cs : List Char) :
    (accept c).run (c :: cs) = some (true, cs) :=
  if_pos rfl

theorem run_accept_of_head? {c : Char} (h : cs.head? ≠ some c) :
    (accept c).run cs = some (false, cs) := by
  cases cs with
  | nil => rfl
  | cons d cs => exact if_neg fun hd => h (congrArg some hd)

theorem run_satisfy_of_pos {p : Char → Bool} {c : Char} (h : p c = true) (cs : List Char) :
    (satisfy p).run (c :: cs) = some (c, cs) :=
  if_pos h

theorem run_skipWhile_of_neg {p : Char → Bool} {c : Char} (h : p c = false) (cs : List Char) :
    (skipWhile p).run (c :: cs) = some ((), c :: cs) := by
  show some ((), (c :: cs).dropWhile p) = _
  rw [List.dropWhile_cons_of_neg (by simp [h])]

/-- As many digits as a number may have at most are taken as a number, whatever follows. -/
theorem run_number_of_length {ds : List Char} {least width : Nat} (hleast : least ≤ width)
    (hds : ∀ c ∈ ds, c.isDigit) (hlength : ds.length = width) (rest : List Char) :
    (number least width).run (ds ++ rest) = some (digitsValue ds, rest) := by
  have htaken : ((ds ++ rest).take width).takeWhile Char.isDigit = ds := by
    rw [← hlength, List.take_left, List.takeWhile_eq_self_iff.2 hds]
  show (if (((ds ++ rest).take width).takeWhile Char.isDigit).length < least then none
    else some _) = _
  rw [htaken, if_neg (by omega), List.drop_left]

/-- A number that fills its width is taken, whatever follows. -/
theorem run_number_paddedDigits {least width n : Nat} (hleast : least ≤ width) (hwidth : 1 ≤ width)
    (hn : n < 10 ^ width) (rest : List Char) :
    (number least width).run (paddedDigits width n ++ rest) = some (n, rest) := by
  rw [run_number_of_length hleast (fun c => isDigit_of_mem_paddedDigits)
    (length_paddedDigits hwidth hn), digitsValue_paddedDigits]

/-- From a run of digits a number of a fixed width takes the first ones. -/
theorem run_number {ds : List Char} {stop : Char} (width : Nat) (hds : ∀ c ∈ ds, c.isDigit)
    (hstop : stop.isDigit = false) : (number width width).run (ds ++ stop :: rest) =
      if ds.length < width then none
      else some (digitsValue (ds.take width), ds.drop width ++ stop :: rest) := by
  have htaken : ((ds ++ stop :: rest).take width).takeWhile Char.isDigit = ds.take width := by
    rw [← List.take_takeWhile, List.takeWhile_append_of_pos hds,
      List.takeWhile_cons_of_neg (by simp [hstop]), List.append_nil]
  show (if (((ds ++ stop :: rest).take width).takeWhile Char.isDigit).length < width then none
    else some _) = _
  rw [htaken]
  by_cases hshort : ds.length < width
  · rw [if_pos hshort, if_pos (by rw [List.length_take]; omega)]
  · have hlength : (ds.take width).length = width := by
      rw [List.length_take]
      omega
    rw [if_neg hshort, if_neg (by omega), hlength, List.drop_append_of_le_length (by omega)]

/-- Behind a number of fixed width in a run of digits no mark is found. -/
theorem run_number_char {ds : List Char} {next : Nat → Unit → Scanner β} {mark stop : Char}
    (width : Nat) (hds : ∀ c ∈ ds, c.isDigit) (hmark : mark.isDigit = false)
    (hstop : stop.isDigit = false) (hne : stop ≠ mark) :
    (number width width >>= fun n => char mark >>= next n).run (ds ++ stop :: rest) = none := by
  have hnumber : (number width width).run (ds ++ stop :: rest) = _ := run_number width hds hstop
  split at hnumber
  · exact run_bind_of_none hnumber
  · rw [run_bind_of_some hnumber]
    refine run_bind_of_none ?_
    cases hleft : ds.drop width with
    | nil => rw [List.nil_append, run_char, if_neg hne]
    | cons d left =>
      rw [List.cons_append, run_char, if_neg]
      rintro rfl
      have hd := hds d (List.mem_of_mem_drop (hleft ▸ List.mem_cons_self))
      rw [hmark] at hd
      cases hd

end Scanner

end Logbook
