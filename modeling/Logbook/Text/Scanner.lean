import Logbook.Number.Digits
import Logbook.Text.Blank

/-!
# Scanning a text from left to right

A scanner takes a part off the front of a text or fails. Scanners are put together with the
operations of a state monad; a text is of the scanned form when nothing is left over.
-/

set_option autoImplicit false

namespace Logbook

/-- Takes a part off the front of a text. -/
abbrev Scanner := StateT (List Char) Option

namespace Scanner

variable {α : Type}

/-- Scans a text to its end. -/
def all? (scan : Scanner α) (text : String) : Option α :=
  match scan.run text.toList with
  | some (a, []) => some a
  | _ => none

/-- The next character. -/
def next : Scanner Char
  | [] => none
  | c :: cs => some (c, cs)

/-- The next character, where it satisfies `p`. -/
def satisfy (p : Char → Bool) : Scanner Char
  | [] => none
  | c :: cs => if p c then some (c, cs) else none

/-- A given character. -/
def char (c : Char) : Scanner Unit := discard (satisfy (· == c))

/-- Passes over the characters that satisfy `p`, as far as they go. -/
def skipWhile (p : Char → Bool) : Scanner Unit := fun cs => some ((), cs.dropWhile p)

/-- The characters that satisfy `p`, as far as they go. -/
def takeWhile (p : Char → Bool) : Scanner (List Char) := fun cs =>
  some (cs.takeWhile p, cs.dropWhile p)

/-- Passes over a given character if it is the next one, and tells whether it was. -/
def accept (c : Char) : Scanner Bool
  | [] => some (false, [])
  | d :: cs => if d = c then some (true, cs) else some (false, d :: cs)

/-- A number of at least `least` digits; digits from the `most`-th on are left. -/
def number (least most : Nat) : Scanner Nat := fun cs =>
  let ds := (cs.take most).takeWhile Char.isDigit
  if ds.length < least then none else some (digitsValue ds, cs.drop ds.length)

end Scanner

end Logbook
