import Logbook.Number.Hexadecimal

/-!
# Percent encoding

In a URL a character that must not stand for itself is written byte by byte, each byte as a percent
sign and two digits of base sixteen. Which characters those are depends on the part of the URL.
-/

set_option autoImplicit false

namespace Logbook

namespace Percent

/-- Controls, and everything outside of ASCII. -/
def isControl (c : Char) : Bool := c.toNat < 0x20 || 0x7F ≤ c.toNat

/-- What is encoded in a fragment. -/
def inFragment (c : Char) : Bool := isControl c || [' ', '\x22', '<', '>', '\x60'].contains c

/-- What is encoded in a segment of a path. -/
def inPath (c : Char) : Bool := inFragment c || ['#', '?', '\x7b', '\x7d'].contains c

/-- What is encoded in a user's name or password. -/
def inCredentials (c : Char) : Bool :=
  inPath c || ['/', ':', ';', '=', '@', '[', '\x5c', ']', '^', '|'].contains c

/-- What is encoded in a query; in URLs of some schemes an apostrophe too. -/
def inQuery (special : Bool) (c : Char) : Bool :=
  isControl c || [' ', '\x22', '#', '<', '>'].contains c || special && c == '\x27'

/-- A byte encoded. -/
def encodeByte (b : UInt8) : List Char :=
  ['%', hexDigitUpper (b.toNat / 16), hexDigitUpper (b.toNat % 16)]

/-- Characters, those that satisfy `p` encoded. -/
def encode (p : Char → Bool) (cs : List Char) : String :=
  String.ofList (cs.flatMap fun c =>
    if p c then (String.utf8EncodeChar c).flatMap encodeByte else [c])

/-- The bytes that characters stand for. A percent sign without two digits stands for itself. -/
def decodeBytes : List Char → List UInt8
  | [] => []
  | '%' :: a :: b :: cs =>
    match hexDigitValue? a, hexDigitValue? b with
    | some x, some y => UInt8.ofNat (16 * x + y) :: decodeBytes cs
    | _, _ => 37 :: decodeBytes (a :: b :: cs)
  | c :: cs => String.utf8EncodeChar c ++ decodeBytes cs

/-- The text that characters stand for, if the bytes are one. -/
def decode? (cs : List Char) : Option String :=
  String.fromUTF8? (ByteArray.mk (decodeBytes cs).toArray)

end Percent

end Logbook
