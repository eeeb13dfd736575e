import Logbook.Number.Digits
import Logbook.Number.Hexadecimal
import Logbook.Number.Power
import Logbook.Text.Split

/-!
# Numeric addresses

Addresses of version 4 are up to four numbers between points, each decimal, octal behind a zero or
hexadecimal behind `0x`; the last one fills all the bytes that are left. Addresses of version 6 are
eight pieces of sixteen bits between colons; one run of zeros may be left out, and the last two
pieces may be written as an address of version 4.
-/

set_option autoImplicit false

namespace Logbook

/-! ## Version 4 -/

namespace Ipv4

/-- The value of digits in a base. -/
def valueIn? (base : Nat) (cs : List Char) : Option Nat :=
  cs.foldl (fun value c => do
    let value ← value
    let digit ← hexDigitValue? c
    if digit < base then some (base * value + digit) else none) (some 0)

/-- One number of an address. -/
def number? : List Char → Option Nat
  | [] => none
  | '0' :: 'x' :: cs | '0' :: 'X' :: cs => valueIn? 16 cs
  | '0' :: c :: cs => valueIn? 8 (c :: cs)
  | cs => valueIn? 10 cs

/-- The parts of a host between points, without an empty one at the end. -/
def parts (cs : List Char) : List (List Char) :=
  let parts := splitBy (· == '.') cs
  if parts.length > 1 ∧ parts.getLast? = some [] then parts.dropLast else parts

/-- A host is meant as an address when its last part is a number. -/
def isMeant (cs : List Char) : Bool :=
  match (parts cs).getLast? with
  | some last => !last.isEmpty && last.all Char.isDigit || (number? last).isSome
  | none => false

/-- The address that a host writes. -/
def ofChars? (cs : List Char) : Option Nat := do
  let numbers ← (parts cs).mapM number?
  let last ← numbers.getLast?
  let bytes := numbers.dropLast
  if numbers.length ≤ 4 ∧ bytes.all (· ≤ 255) ∧ last < 256 ^ (4 - bytes.length) then
    some ((bytes.foldl (fun value byte => 256 * value + byte) 0) * 256 ^ (4 - bytes.length) + last)
  else
    none

/-- The text of an address: its four bytes. -/
def text (address : Nat) : String :=
  String.intercalate "." ([24, 16, 8, 0].map fun shift => natText (address / 2 ^ shift % 256))

/-- The two pieces of an address of four plain decimal bytes. -/
def pieces? (cs : List Char) : Option (List Nat) :=
  let byte? (ds : List Char) : Option Nat := do
    let n ← natOfDigits? ds
    if n ≤ 255 ∧ digits n = ds then some n else none
  match (splitBy (· == '.') cs).mapM byte? with
  | some [a, b, c, d] => some [256 * a + b, 256 * c + d]
  | _ => none

end Ipv4

/-! ## Version 6 -/

namespace Ipv6

/-- One piece: up to four digits of base sixteen. -/
def piece? (cs : List Char) : Option Nat :=
  if cs.isEmpty ∨ 4 < cs.length then none else Ipv4.valueIn? 16 cs

/-- Some pieces between colons; the last may be an address of version 4 where `mixed` allows it. -/
def pieces? (mixed : Bool) (cs : List Char) : Option (List Nat) :=
  if cs.isEmpty then some []
  else do
    let groups := splitBy (· == ':') cs
    let last ← groups.getLast?
    let front ← groups.dropLast.mapM piece?
    match piece? last with
    | some piece => return front ++ [piece]
    | none => if mixed then return front ++ (← Ipv4.pieces? last) else none

/-- The characters before and after the first two colons in a row. -/
def splitGap? : List Char → Option (List Char × List Char)
  | ':' :: ':' :: cs => some ([], cs)
  | c :: cs => (splitGap? cs).map fun parts => (c :: parts.1, parts.2)
  | [] => none

/-- The eight pieces of an address. -/
def ofChars? (cs : List Char) : Option (List Nat) :=
  match splitGap? cs with
  | none => do
    let pieces ← pieces? true cs
    if pieces.length = 8 then some pieces else none
  | some (front, back) => do
    let front ← pieces? false front
    let back ← pieces? true back
    let given := front.length + back.length
    if given ≤ 7 then some (front ++ List.replicate (8 - given) 0 ++ back) else none

/-- How many zeros a list begins with. -/
def zeros (pieces : List Nat) : Nat := (pieces.takeWhile (· == 0)).length

/-- The place and the length of the first of the longest runs of zeros. -/
def longestZeros (pieces : List Nat) : Nat × Nat :=
  (List.range pieces.length).foldl (fun best place =>
    let run := zeros (pieces.drop place)
    if best.2 < run then (place, run) else best) (0, 0)

/-- Pieces between colons. -/
def piecesText (pieces : List Nat) : String :=
  String.intercalate ":" (pieces.map fun piece => String.ofList (hexDigits piece))

/-- The text of an address: the longest run of at least two zeros is left out. -/
def text (pieces : List Nat) : String :=
  let (place, run) := longestZeros pieces
  if run < 2 then piecesText pieces
  else piecesText (pieces.take place) ++ "::" ++ piecesText (pieces.drop (place + run))

end Ipv6

end Logbook
