import Logbook.Json.Basic
import Logbook.Number.Hexadecimal
import Logbook.Number.Layout

/-!
# Writing JSON texts

Values are written without blanks, fields in the order in which they stand.
-/

set_option autoImplicit false

namespace Logbook

namespace Json

/-- Floating-point numbers are always told from integers: a whole number ends in `.0`, and from
`1e16` on and below `1e-5` an exponent is written. -/
def numberLayout : Layout := ⟨some (-4, 16), ".0", .toEven⟩

/-- How a character is written inside a string. -/
def stringChar (c : Char) : List Char :=
  if c = '\x22' then ['\x5c', '\x22']
  else if c = '\x5c' then ['\x5c', '\x5c']
  else if c = '\n' then ['\x5c', 'n']
  else if c = '\r' then ['\x5c', 'r']
  else if c = '\t' then ['\x5c', 't']
  else if c = '\x08' then ['\x5c', 'b']
  else if c = '\x0c' then ['\x5c', 'f']
  else if c.toNat < 0x20 then
    ['\x5c', 'u', '0', '0', hexDigitChar (c.toNat / 16), hexDigitChar (c.toNat % 16)]
  else [c]

/-- A string between its quotes. -/
def stringText (s : String) : String :=
  String.ofList ('\x22' :: s.toList.flatMap stringChar ++ ['\x22'])

/-- Texts between commas. -/
def commaSeparated (texts : List String) : String := String.intercalate "," texts

mutual

/-- The text of a value. -/
def print : Json → String
  | .null => "null"
  | .bool value => if value then "true" else "false"
  | .int value => intText value
  | .float value => numberLayout.text (.finite value)
  | .string value => stringText value
  | .array items => "[" ++ commaSeparated (printItems items) ++ "]"
  | .object fields => "\x7b" ++ commaSeparated (printFields fields) ++ "\x7d"

/-- The texts of the items of an array. -/
def printItems : List Json → List String
  | [] => []
  | item :: items => item.print :: printItems items

/-- The texts of the fields of an object. -/
def printFields : List (String × Json) → List String
  | [] => []
  | (key, value) :: fields => (stringText key ++ ":" ++ value.print) :: printFields fields

end

end Json

end Logbook
