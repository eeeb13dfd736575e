import Logbook.Number.Hexadecimal
import Logbook.Text.Split

/-!
# Runs of characters

What a standard says of many characters is written down as runs of neighbours in ascending order,
one word for each run: how many characters lie between it and the run before, a letter for what it
says of its characters, how many characters follow its first one and, behind a colon, the numbers
of other characters with points between them. All numbers are in base sixteen, and zero is left
out. The tables are those of version 17 of the character standard.
-/

set_option autoImplicit false

namespace Logbook

/-- Neighbours of which a table says the same. -/
structure CharRun where
  first : Nat
  last : Nat
  kind : Char
  /-- The numbers of other characters that belong to these. -/
  others : List Nat
deriving DecidableEq, Repr

namespace CharRun

/-- The run holds a character. -/
def holds (run : CharRun) (c : Char) : Bool := run.first ≤ c.toNat && c.toNat ≤ run.last

/-- The run of a table that holds a character. -/
def find? (runs : List CharRun) (c : Char) : Option CharRun := runs.find? (·.holds c)

/-- The kind of the run that holds a character. -/
def kind? (runs : List CharRun) (c : Char) : Option Char := (find? runs c).map kind

/-- A run of a table holds a character. -/
def anyHolds (runs : List CharRun) (c : Char) : Bool := runs.any (·.holds c)

/-! ## Reading -/

/-- The number that digits write. -/
def number (cs : List Char) : Nat :=
  cs.foldl (fun n c => 16 * n + (hexDigitValue? c).getD 0) 0

/-- The run that a word writes, where the run before ends just in front of `start`. -/
def ofWord? (start : Nat) (word : List Char) : Option CharRun :=
  match word.dropWhile fun c => !c.isUpper with
  | [] => none
  | kind :: rest =>
    let first := start + number (word.takeWhile fun c => !c.isUpper)
    let last := first + number (rest.takeWhile (· != ':'))
    match rest.dropWhile (· != ':') with
    | [] => some ⟨first, last, kind, []⟩
    | _ :: others => some ⟨first, last, kind, (splitBy (· == '.') others).map number⟩

/-- The runs that words write. -/
def ofWords (start : Nat) : List (List Char) → List CharRun
  | [] => []
  | word :: words =>
    match ofWord? start word with
    | none => ofWords start words
    | some run => run :: ofWords (run.last + 1) words

/-- The runs that lines of words write. -/
def ofLines (lines : List String) : List CharRun :=
  ofWords 0 (lines.flatMap fun line => splitBy (· == ' ') line.toList)

end CharRun

end Logbook
