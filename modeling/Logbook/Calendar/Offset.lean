import Logbook.Number.Digits
import Logbook.Text.Blank

/-!
# Offsets from universal time

A fixed offset is a whole number of minutes less than a day. It is written `+hh:mm`, and read from
that form, from `+hhmm` and `+hh`, and from `Z`, `UTC` and the empty text, which mean none.
-/

set_option autoImplicit false

namespace Logbook

/-- An offset east of universal time. -/
structure Offset where
  minutes : Int
  minutes_gt : -1440 < minutes
  minutes_lt : minutes < 1440
deriving DecidableEq, Repr

namespace Offset

/-- Universal time. -/
def utc : Offset := ⟨0, by decide, by decide⟩

instance : Inhabited Offset := ⟨utc⟩

/-- The offset in seconds. -/
def seconds (offset : Offset) : Int := 60 * offset.minutes

/-- The offset in milliseconds. -/
def millis (offset : Offset) : Int := 60000 * offset.minutes

/-- The offset of a number of minutes, where that is less than a day. -/
def ofMinutes? (minutes : Int) : Option Offset :=
  if h : -1440 < minutes ∧ minutes < 1440 then some ⟨minutes, h.1, h.2⟩ else none

/-- The offset of a sign, hours up to 23 and minutes up to 59. -/
def ofParts? (negative : Bool) (hours minutes : Nat) : Option Offset :=
  if hours ≤ 23 ∧ minutes ≤ 59 then
    let total : Int := 60 * hours + minutes
    ofMinutes? (if negative then -total else total)
  else
    none

/-- The text `+hh:mm` of an offset. -/
def text (offset : Offset) : String :=
  let sign := if offset.minutes < 0 then '-' else '+'
  let total := offset.minutes.natAbs
  String.ofList (sign :: paddedDigits 2 (total / 60) ++ ':' :: paddedDigits 2 (total % 60))

/-- Hours, or hours and minutes, of two digits each; colons between the digits mean nothing. -/
def ofDigits? (negative : Bool) (cs : List Char) : Option Offset :=
  let ds := cs.filter (· != ':')
  if ds.all Char.isDigit then
    match ds with
    | [a, b] => ofParts? negative (digitsValue [a, b]) 0
    | [a, b, c, d] => ofParts? negative (digitsValue [a, b]) (digitsValue [c, d])
    | _ => none
  else
    none

/-- The offset that a trimmed text writes. -/
def ofTrimmed? (text : String) : Option Offset :=
  let word := text.map Char.toLower
  if word = "" ∨ word = "z" ∨ word = "utc" then some utc
  else
    match text.toList with
    | '+' :: cs => ofDigits? false cs
    | '-' :: cs => ofDigits? true cs
    | _ => none

/-- The offset that a text writes; white space around it means nothing. -/
def ofText? (text : String) : Option Offset := ofTrimmed? (trim text)

end Offset

end Logbook
