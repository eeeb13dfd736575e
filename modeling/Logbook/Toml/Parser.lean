import Logbook.Toml.Number
import Logbook.Toml.Text

/-!
# Reading TOML documents

A document is read line by line into statements; what they say is put together afterwards. Arrays
and inline tables are nested less than eighty levels deep, and a dotted key has less than eighty
parts.
-/

set_option autoImplicit false

namespace Logbook

namespace Toml

open Scanner

/-- How deep values are nested, and how many parts a key has, at most. -/
def levels : Nat := 79

/-! ## Blanks, comments and lines -/

/-- A blank inside a line. -/
def isGap (c : Char) : Bool := c == ' ' || c == '\t'

/-- Passes over blanks inside a line. -/
def skipGaps : Scanner Unit := skipWhile isGap

/-- The rest of a comment: up to the end of its line, without control characters. -/
def comment : Scanner Unit
  | [] => some ((), [])
  | c :: cs =>
    if c = '\n' ∨ c = '\r' ∧ cs.head? = some '\n' then some ((), c :: cs)
    else if isControl c then none
    else comment cs

/-- A comment, if there is one. -/
def optionalComment : Scanner Unit := do
  if ← accept '#' then
    comment

/-- A line break. -/
def lineBreak : Scanner Unit
  | '\n' :: cs => some ((), cs)
  | '\r' :: '\n' :: cs => some ((), cs)
  | _ => none

/-- The end of a line: blanks, a comment, and a line break or the end of the text. -/
def lineEnd : Scanner Unit := do
  skipGaps
  optionalComment
  fun cs => if cs.isEmpty then some ((), cs) else lineBreak cs

/-- Passes over blanks, comments and line breaks between the items of an array. -/
def skipLines (inComment : Bool) : Scanner Unit
  | [] => some ((), [])
  | c :: cs =>
    if c = '\n' then skipLines false cs
    else if c = '\r' ∧ cs.head? = some '\n' then skipLines false cs
    else if inComment then if isControl c then none else skipLines true cs
    else if isGap c then skipLines false cs
    else if c = '#' then skipLines true cs
    else some ((), c :: cs)

/-! ## Keys -/

/-- A character of a key without quotes. -/
def isKeyChar (c : Char) : Bool := c.isAlphanum || c == '_' || c == '-'

/-- One part of a key. -/
def keyPart : Scanner String := fun cs =>
  match lineString? cs with
  | some (text, rest) => some (String.ofList text, rest)
  | none =>
    let part := cs.takeWhile isKeyChar
    if part.isEmpty then none else some (String.ofList part, cs.dropWhile isKeyChar)

/-- The parts of a key between points, at most `fuel` of them. -/
def keyParts : Nat → Scanner (List String)
  | 0 => failure
  | fuel + 1 => do
    skipGaps
    let part ← keyPart
    skipGaps
    if ← accept '.' then
      return part :: (← keyParts fuel)
    else
      return [part]

/-- A key. -/
def key : Scanner (List String) := keyParts levels

/-! ## Values -/

/-- A given word. -/
def word (text : String) : Scanner Unit := fun cs =>
  if text.toList.isPrefixOf cs then some ((), cs.drop text.length) else none

/-- A value that is no array and no table. -/
def simpleValue : Scanner Toml := fun cs =>
  match cs with
  | [] => none
  | c :: _ =>
    if c = basicQuote ∨ c = literalQuote then
      (string? cs).map fun r => (.string (String.ofList r.1), r.2)
    else if c = 't' then (word "true" cs).map fun r => (.bool true, r.2)
    else if c = 'f' then (word "false" cs).map fun r => (.bool false, r.2)
    else (moment? cs).orElse fun _ => number? cs

/-- The table that the entries of an inline table make. -/
def inlineTable? (pairs : List (List String × Toml)) : Option Toml :=
  (pairs.foldlM (fun (entries : Entries) pair => entries.assign pair.1 pair.2 .declared) []).map
    fun entries => .table (Node.entriesToToml entries)

mutual

/-- A value, nested at most `depth` levels; `fuel` bounds the number of steps. -/
def value : Nat → Nat → Scanner Toml
  | 0, _ => failure
  | fuel + 1, depth => fun cs =>
    match cs, depth with
    | '[' :: rest, depth + 1 =>
      (items fuel depth rest).map fun r => (.array r.1, r.2)
    | '\x7b' :: rest, depth + 1 => (pairs fuel depth rest).bind fun r =>
      (inlineTable? r.1).map fun table => (table, r.2)
    | '[' :: _, 0 | '\x7b' :: _, 0 => none
    | cs, _ => simpleValue cs

/-- The items of an array behind its opening bracket. -/
def items : Nat → Nat → Scanner (List Toml)
  | 0, _ => failure
  | fuel + 1, depth => do
    skipLines false
    if ← accept ']' then
      return []
    let item ← value fuel depth
    skipLines false
    if ← accept ',' then
      return item :: (← items fuel depth)
    else do
      char ']'
      return [item]

/-- The entries of an inline table behind its opening brace. -/
def pairs : Nat → Nat → Scanner (List (List String × Toml))
  | 0, _ => failure
  | fuel + 1, depth => do
    skipGaps
    if ← accept '\x7d' then
      return []
    else
      morePairs fuel depth

/-- At least one entry of an inline table. -/
def morePairs : Nat → Nat → Scanner (List (List String × Toml))
  | 0, _ => failure
  | fuel + 1, depth => do
    let path ← key
    char '='
    skipGaps
    let entry ← value fuel depth
    skipGaps
    if ← accept ',' then
      return (path, entry) :: (← morePairs fuel depth)
    else do
      char '\x7d'
      return [(path, entry)]

end

/-! ## Statements -/

/-- A statement, to the end of its line. -/
def statement : Scanner Statement := fun cs =>
  match cs with
  | '[' :: '[' :: rest =>
    (do
      let path ← key
      char ']'
      char ']'
      lineEnd
      return Statement.element path : Scanner Statement).run rest
  | '[' :: rest =>
    (do
      let path ← key
      char ']'
      lineEnd
      return Statement.table path : Scanner Statement).run rest
  | cs =>
    (do
      let path ← key
      char '='
      skipGaps
      let value ← value (2 * cs.length + 2) levels
      lineEnd
      return Statement.assign path value : Scanner Statement).run cs

/-- The statements of a text; `fuel` bounds the number of its lines. -/
def statements? : Nat → List Char → Option (List Statement)
  | 0, _ => none
  | fuel + 1, cs =>
    let cs := cs.dropWhile isGap
    match cs with
    | [] => some []
    | c :: _ =>
      if c = '#' ∨ c = '\n' ∨ c = '\r' then
        (lineEnd.run cs).bind fun r => statements? fuel r.2
      else
        (statement.run cs).bind fun r => (statements? fuel r.2).map (r.1 :: ·)

/-- A text without the mark of its byte order. -/
def dropOrderMark : List Char → List Char
  | '\uFEFF' :: cs => cs
  | cs => cs

/-- The entries of the document that a text writes. -/
def document? (text : String) : Option (List (String × Toml)) :=
  let cs := dropOrderMark text.toList
  (statements? (cs.length + 1) cs).bind Statement.document?

end Toml

end Logbook
