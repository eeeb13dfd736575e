/-!
# Base 64

Bytes as text: three bytes become four characters of an alphabet of 64, and a last group of fewer
bytes is filled up with equals signs.
-/

set_option autoImplicit false

namespace Logbook

namespace Base64

/-- The characters of the digits, in ascending order. -/
def alphabet : List Char :=
  "ABCDEFGHIJKLMNOPQRSTUVWXYZabcdefghijklmnopqrstuvwxyz0123456789+/".toList

/-- The character of a digit. -/
def digit (n : Nat) : Char := alphabet.getD (n % 64) 'A'

/-- Bytes as characters. -/
def chars : List UInt8 → List Char
  | [] => []
  | [a] =>
    let n := a.toNat * 65536
    [digit (n / 262144), digit (n / 4096), '=', '=']
  | [a, b] =>
    let n := a.toNat * 65536 + b.toNat * 256
    [digit (n / 262144), digit (n / 4096), digit (n / 64), '=']
  | a :: b :: c :: rest =>
    let n := a.toNat * 65536 + b.toNat * 256 + c.toNat
    digit (n / 262144) :: digit (n / 4096) :: digit (n / 64) :: digit n :: chars rest

/-- The bytes of a text, as text. -/
def ofText (text : String) : String := String.ofList (chars text.toUTF8.toList)

end Base64

end Logbook
