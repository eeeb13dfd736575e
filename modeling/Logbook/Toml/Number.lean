import Logbook.Calendar.Date
import Logbook.Number.Decimal
import Logbook.Number.Hexadecimal
import Logbook.Number.Reading
import Logbook.Text.Scanner
import Logbook.Toml.Basic

/-!
# Numbers and moments in TOML documents

Underscores may stand between digits. Integers fit 64 bits with a sign and are decimal, or
hexadecimal, octal or binary without a sign. A number with a fraction or an exponent is
floating-point, and so are `inf` and `nan`. A moment is a date, a time of day, or both, with or
without an offset.
-/

set_option autoImplicit false

namespace Logbook

namespace Toml

/-- Digits with single underscores between them, and what follows. -/
def digitRun (isDigit : Char → Bool) : List Char → List Char × List Char
  | [] => ([], [])
  | '_' :: d :: cs =>
    if isDigit d then
      let (ds, rest) := digitRun isDigit cs
      (d :: ds, rest)
    else ([], '_' :: d :: cs)
  | c :: cs =>
    if isDigit c then
      let (ds, rest) := digitRun isDigit cs
      (c :: ds, rest)
    else ([], c :: cs)

/-- At least one digit, the first without an underscore before it. -/
def digits? (isDigit : Char → Bool) (cs : List Char) : Option (List Char × List Char) :=
  match cs.head? with
  | some c => if isDigit c then some (digitRun isDigit cs) else none
  | none => none

/-- The character is a digit in a base. -/
def isDigitIn (base : Nat) (c : Char) : Bool :=
  match hexDigitValue? c with
  | some d => d < base
  | none => false

/-- The number that digits write in a base. -/
def valueIn (base : Nat) (ds : List Char) : Nat :=
  ds.foldl (fun value c => base * value + (hexDigitValue? c).getD 0) 0

/-- An integer in a base other than ten. -/
def integerIn? (base : Nat) (cs : List Char) : Option (Toml × List Char) := do
  let (ds, rest) ← digits? (isDigitIn base) cs
  if valueIn base ds < 2 ^ 63 then some (.integer (valueIn base ds), rest) else none

/-- The fraction behind a point; none where there is no point. -/
def fraction? : List Char → Option (Option (List Char) × List Char)
  | '.' :: cs => (digits? Char.isDigit cs).map fun r => (some r.1, r.2)
  | cs => some (none, cs)

/-- The exponent; none where there is none. -/
def exponent? : List Char → Option (Option Int × List Char)
  | c :: cs =>
    if c = 'e' ∨ c = 'E' then
      let (negative, cs) := spanSign cs
      (digits? Char.isDigit cs).map fun r =>
        let n : Int := digitsValue r.1
        (some (if negative then -n else n), r.2)
    else some (none, c :: cs)
  | [] => some (none, [])

/-- A decimal number behind its sign. -/
def decimal? (negative : Bool) (cs : List Char) : Option (Toml × List Char) := do
  let (whole, rest) ← digits? Char.isDigit cs
  if whole.head? = some '0' ∧ 1 < whole.length then failure
  let (fraction, rest) ← fraction? rest
  let (exponent, rest) ← exponent? rest
  if fraction.isNone ∧ exponent.isNone then
    let n : Int := if negative then -(digitsValue whole : Int) else digitsValue whole
    if -2 ^ 63 ≤ n ∧ n < 2 ^ 63 then some (.integer n, rest) else none
  else
    let ds := fraction.getD []
    let value : Decimal := ⟨digitsValue (whole ++ ds), exponent.getD 0 - ds.length⟩
    let value := value.toBinary64 negative
    if value = .infinite false then none else some (.float value, rest)

/-- A number of any form. -/
def number? (cs : List Char) : Option (Toml × List Char) :=
  match cs with
  | '0' :: 'x' :: rest => integerIn? 16 rest
  | '0' :: 'o' :: rest => integerIn? 8 rest
  | '0' :: 'b' :: rest => integerIn? 2 rest
  | _ =>
    let (negative, rest) := spanSign cs
    match rest with
    | 'i' :: 'n' :: 'f' :: rest => some (.float (.infinite negative), rest)
    | 'n' :: 'a' :: 'n' :: rest => some (.float .nan, rest)
    | _ => decimal? negative rest

/-! ## Moments -/

namespace Moment

open Scanner

/-- A date that exists. -/
def date : Scanner Unit := do
  let year ← number 4 4
  char '-'
  let month ← number 2 2
  char '-'
  let day ← number 2 2
  guard (Date.isValid ⟨year, month, day⟩)

/-- A time of day. -/
def time : Scanner Unit := do
  let hour ← number 2 2
  char ':'
  let minute ← number 2 2
  char ':'
  let second ← number 2 2
  guard (hour ≤ 23 && minute ≤ 59 && second ≤ 60)
  if ← accept '.' then
    let ds ← takeWhile Char.isDigit
    guard (!ds.isEmpty)

/-- An offset. -/
def offset : Scanner Unit := do
  match ← next with
  | 'Z' | 'z' => return
  | '+' | '-' =>
    let hours ← number 2 2
    char ':'
    let minutes ← number 2 2
    guard (hours ≤ 23 && minutes ≤ 59)
  | _ => failure

/-- Tries a scanner, and goes on without it where it fails. -/
def attempt (scan : Scanner Unit) : Scanner Bool := fun cs =>
  match scan.run cs with
  | some ((), rest) => some (true, rest)
  | none => some (false, cs)

/-- What separates a date from a time. -/
def separator : Scanner Unit := discard (satisfy fun c => c == 'T' || c == 't' || c == ' ')

/-- A moment of any form. -/
def scan : Scanner Unit := do
  if ← attempt date then
    if ← attempt (do separator; time) then
      discard (attempt offset)
  else
    time

end Moment

/-- A moment, as it is written. -/
def moment? (cs : List Char) : Option (Toml × List Char) :=
  (Moment.scan.run cs).map fun r =>
    (.moment (String.ofList (cs.take (cs.length - r.2.length))), r.2)

end Toml

end Logbook
