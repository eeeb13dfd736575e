import Logbook.Json.Number
import Logbook.Number.Hexadecimal

/-!
# Reading JSON texts

A text is read into the value as it stands, repeated keys included. Arrays and objects may be
nested 127 deep. Who wants only parts of a value says so in an *outline*; what lies outside it has
to be written as JSON, but may nest deeper, and its numbers and numbered characters need not stand
for anything. Every step either fails or leaves a shorter rest, so the length of the text bounds
the steps of each loop.
-/

set_option autoImplicit false

namespace Logbook

namespace Json

/-- The text without the blanks in front. -/
def skipBlanks : List Char → List Char
  | [] => []
  | c :: cs => if c = ' ' ∨ c = '\n' ∨ c = '\t' ∨ c = '\r' then skipBlanks cs else c :: cs

/-- The four digits of a numbered character. -/
def spanHex4? : List Char → Option (Nat × List Char)
  | a :: b :: c :: d :: cs => do
    let a ← hexDigitValue? a
    let b ← hexDigitValue? b
    let c ← hexDigitValue? c
    let d ← hexDigitValue? d
    some (((a * 16 + b) * 16 + c) * 16 + d, cs)
  | _ => none

/-- A numbered character; one beyond the sixteen-bit range is written as two numbers, of which
neither may stand alone. -/
def spanNumberedChar? (cs : List Char) : Option (Char × List Char) := do
  let (high, cs) ← spanHex4? cs
  if 0xDC00 ≤ high ∧ high ≤ 0xDFFF then none
  else if 0xD800 ≤ high ∧ high ≤ 0xDBFF then
    match cs with
    | '\x5c' :: 'u' :: cs =>
      let (low, cs) ← spanHex4? cs
      if 0xDC00 ≤ low ∧ low ≤ 0xDFFF then
        some (Char.ofNat (0x10000 + (high - 0xD800) * 0x400 + (low - 0xDC00)), cs)
      else none
    | _ => none
  else some (Char.ofNat high, cs)

/-- The character that a letter behind a backslash stands for. -/
def escapedChar? (c : Char) : Option Char :=
  match c with
  | '\x22' => some '\x22'
  | '\x5c' => some '\x5c'
  | '/' => some '/'
  | 'b' => some '\x08'
  | 'f' => some '\x0c'
  | 'n' => some '\n'
  | 'r' => some '\r'
  | 't' => some '\t'
  | _ => none

/-- The characters up to the closing quote, and what follows it. -/
def spanString? : Nat → List Char → Option (List Char × List Char)
  | 0, _ => none
  | fuel + 1, cs =>
    match cs with
    | [] => none
    | '\x22' :: rest => some ([], rest)
    | '\x5c' :: 'u' :: rest => do
      let (c, rest) ← spanNumberedChar? rest
      let (text, rest) ← spanString? fuel rest
      some (c :: text, rest)
    | '\x5c' :: c :: rest => do
      let c ← escapedChar? c
      let (text, rest) ← spanString? fuel rest
      some (c :: text, rest)
    | c :: rest =>
      if c.toNat < 0x20 ∨ c = '\x5c' then none
      else do
        let (text, rest) ← spanString? fuel rest
        some (c :: text, rest)

/-! ## Passing over -/

/-- What follows the closing quote. Four digits are enough for a numbered character. -/
def skipString? : List Char → Option (List Char)
  | [] => none
  | '\x22' :: rest => some rest
  | '\x5c' :: 'u' :: a :: b :: c :: d :: rest =>
    if [a, b, c, d].all fun digit => (hexDigitValue? digit).isSome then skipString? rest else none
  | '\x5c' :: c :: rest => if (escapedChar? c).isSome then skipString? rest else none
  | c :: rest => if c.toNat < 0x20 ∨ c = '\x5c' then none else skipString? rest

mutual

/-- What follows the value in front of a text. -/
def skipValue? : Nat → List Char → Option (List Char)
  | 0, _ => none
  | fuel + 1, cs =>
    match skipBlanks cs with
    | 'n' :: 'u' :: 'l' :: 'l' :: rest => some rest
    | 't' :: 'r' :: 'u' :: 'e' :: rest => some rest
    | 'f' :: 'a' :: 'l' :: 's' :: 'e' :: rest => some rest
    | '\x22' :: rest => skipString? rest
    | '[' :: rest =>
      match skipBlanks rest with
      | ']' :: rest => some rest
      | rest => skipItems? fuel rest
    | '\x7b' :: rest =>
      match skipBlanks rest with
      | '\x7d' :: rest => some rest
      | rest => skipFields? fuel rest
    | rest => (spanNumeral? rest).map Prod.snd

/-- What follows the items of an array behind its bracket. -/
def skipItems? : Nat → List Char → Option (List Char)
  | 0, _ => none
  | fuel + 1, cs => do
    let rest ← skipValue? fuel cs
    match skipBlanks rest with
    | ',' :: rest => skipItems? fuel rest
    | ']' :: rest => some rest
    | _ => none

/-- What follows the fields of an object behind its brace. -/
def skipFields? : Nat → List Char → Option (List Char)
  | 0, _ => none
  | fuel + 1, cs =>
    match skipBlanks cs with
    | '\x22' :: rest => do
      let rest ← skipString? rest
      match skipBlanks rest with
      | ':' :: rest =>
        let rest ← skipValue? fuel rest
        match skipBlanks rest with
        | ',' :: rest => skipFields? fuel rest
        | '\x7d' :: rest => some rest
        | _ => none
      | _ => none
    | _ => none

end

/-- What follows the value in front of a text. Each bracket or brace costs two steps. -/
def skip? (cs : List Char) : Option (List Char) := skipValue? (2 * cs.length + 2) cs

/-! ## Outlines -/

/-- Which parts of a value are wanted. -/
inductive Outline where
  | whole
  | nothing
  /-- The fields of an object by name, or the items of an array by place. -/
  | record (fields : List (String × Outline))
  /-- The same part of every item of an array. -/
  | list (item : Outline)

namespace Outline

/-- What is wanted of the field of a name. -/
def field : Outline → String → Outline
  | record fields, key => (fields.lookup key).getD nothing
  | outline, _ => outline

/-- What is wanted of the item at a place. -/
def item : Outline → Nat → Outline
  | record fields, place => ((fields.map Prod.snd)[place]?).getD nothing
  | list item, _ => item
  | outline, _ => outline

end Outline

/-! ## Values -/

/-- The items of an array behind its bracket from a place on, given how to read each. -/
def spanItems? (value : Nat → List Char → Option (Json × List Char)) :
    Nat → Nat → List Char → Option (List Json × List Char)
  | 0, _, _ => none
  | fuel + 1, place, cs => do
    let (item, rest) ← value place cs
    match skipBlanks rest with
    | ',' :: rest =>
      let (items, rest) ← spanItems? value fuel (place + 1) rest
      some (item :: items, rest)
    | ']' :: rest => some ([item], rest)
    | _ => none

/-- The fields of an object behind its brace, given how to read the value of a key. -/
def spanFields? (value : String → List Char → Option (Json × List Char)) :
    Nat → List Char → Option (List (String × Json) × List Char)
  | 0, _ => none
  | fuel + 1, cs =>
    match skipBlanks cs with
    | '\x22' :: rest => do
      let (key, rest) ← spanString? (rest.length + 1) rest
      let key := String.ofList key
      match skipBlanks rest with
      | ':' :: rest =>
        let (item, rest) ← value key rest
        match skipBlanks rest with
        | ',' :: rest =>
          let (fields, rest) ← spanFields? value fuel rest
          some ((key, item) :: fields, rest)
        | '\x7d' :: rest => some ([(key, item)], rest)
        | _ => none
      | _ => none
    | _ => none

/-- The wanted parts of the value in front of a text, with at most `depth` levels of nesting, and
what follows it. What is not wanted is left as `null`. -/
def spanValue? (depth : Nat) (outline : Outline) (cs : List Char) : Option (Json × List Char) :=
  match outline, skipBlanks cs with
  | .nothing, rest => (skip? rest).map fun rest => (.null, rest)
  | _, 'n' :: 'u' :: 'l' :: 'l' :: rest => some (.null, rest)
  | _, 't' :: 'r' :: 'u' :: 'e' :: rest => some (.bool true, rest)
  | _, 'f' :: 'a' :: 'l' :: 's' :: 'e' :: rest => some (.bool false, rest)
  | _, '\x22' :: rest => do
    let (text, rest) ← spanString? (rest.length + 1) rest
    some (.string (String.ofList text), rest)
  | outline, '[' :: rest =>
    match depth with
    | 0 => none
    | depth + 1 =>
      match skipBlanks rest with
      | ']' :: rest => some (.array [], rest)
      | rest => do
        let item (place : Nat) (cs : List Char) := spanValue? depth (outline.item place) cs
        let (items, rest) ← spanItems? item (rest.length + 1) 0 rest
        some (.array items, rest)
  | outline, '\x7b' :: rest =>
    match depth with
    | 0 => none
    | depth + 1 =>
      match skipBlanks rest with
      | '\x7d' :: rest => some (.object [], rest)
      | rest => do
        let field (key : String) (cs : List Char) := spanValue? depth (outline.field key) cs
        let (fields, rest) ← spanFields? field (rest.length + 1) rest
        some (.object fields, rest)
  | _, rest => spanNumber? rest
termination_by structural depth

/-- The deepest nesting of arrays and objects that is read. -/
def maxDepth : Nat := 127

/-- The wanted parts of the value that a text writes, as it stands. -/
def parseWithin? (outline : Outline) (text : String) : Option Json := do
  let (value, rest) ← spanValue? maxDepth outline text.toList
  if skipBlanks rest = [] then some value else none

/-- The value that a text writes, as it stands. -/
def parse? (text : String) : Option Json := parseWithin? .whole text

end Json

end Logbook
