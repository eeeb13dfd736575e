import Logbook.Number.Hexadecimal
import Logbook.Text.Printable

/-!
# Quoted text in messages

A message shows a text between double quotes. Quotes, backslashes and the common controls are
written as a backslash and a letter; any other character that cannot be shown by itself is written
as its number in hexadecimal between braces.
-/

set_option autoImplicit false

namespace Logbook

/-- How a character is written inside quotes. -/
def quotedChar (c : Char) : List Char :=
  if c = '\x22' then ['\x5c', '\x22']
  else if c = '\x5c' then ['\x5c', '\x5c']
  else if c = '\t' then ['\x5c', 't']
  else if c = '\r' then ['\x5c', 'r']
  else if c = '\n' then ['\x5c', 'n']
  else if c.toNat = 0 then ['\x5c', '0']
  else if isExtending c || !isPrintable c then
    ['\x5c', 'u', '\x7b'] ++ hexDigits c.toNat ++ ['\x7d']
  else [c]

/-- A text between quotes. -/
def quoted (s : String) : String :=
  String.ofList ('\x22' :: s.toList.flatMap quotedChar ++ ['\x22'])

end Logbook
