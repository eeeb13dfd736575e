import Logbook.Number.Hexadecimal

/-!
# Strings in TOML documents

A string is *basic*, between double quotes with escapes, or *literal*, between single quotes without
any. Either may be written between three quotes instead of one, and then go over several lines: a
line break right behind the opening quotes is dropped, and up to two quotes may stand in front of
the closing ones.

The printer takes the first form that needs no escapes, basic before literal and one line before
several, and a basic one with escapes where there is none.
-/

set_option autoImplicit false

namespace Logbook

namespace Toml

/-- The double quote. -/
def basicQuote : Char := '\x22'

/-- The single quote. -/
def literalQuote : Char := '\x27'

/-- A control character that stands in no string. -/
def isControl (c : Char) : Bool := c.toNat < 0x20 && c != '\t' || c.toNat == 0x7F

/-! ## Reading -/

/-- The end of a string between one or three quotes: quotes that still belong to it, and what
follows the closing ones. -/
def closing? (quote : Char) (multi : Bool) : List Char → Option (List Char × List Char)
  | a :: cs =>
    if a ≠ quote then none
    else if multi = false then some ([], cs)
    else
      match cs with
      | b :: c :: cs =>
        if b ≠ quote ∨ c ≠ quote then none
        else
          match cs with
          | d :: e :: rest =>
            if d ≠ quote then some ([], cs)
            else if e ≠ quote then some ([quote], e :: rest)
            else some ([quote, quote], rest)
          | [d] => if d ≠ quote then some ([], cs) else some ([quote], [])
          | [] => some ([], [])
      | _ => none
  | [] => none

/-- The character of a backslash and a letter. -/
def escaped? (c : Char) : Option Char :=
  if c = 'b' then some '\x08'
  else if c = 't' then some '\t'
  else if c = 'n' then some '\n'
  else if c = 'f' then some '\x0c'
  else if c = 'r' then some '\r'
  else if c = '\x22' then some '\x22'
  else if c = '\x5c' then some '\x5c'
  else none

/-- The character of a code point. -/
def charOfCode? (code : Nat) : Option Char :=
  if h : code.isValidChar then some (Char.ofNatAux code h) else none

/-- Where in a basic string a reader is. -/
inductive BasicState where
  | plain
  /-- Behind a backslash. -/
  | escape
  /-- In the digits of a code point. -/
  | code (left value : Nat)
  /-- Behind a backslash at the end of a line: blanks and line breaks are passed over. -/
  | gap (broken : Bool)

/-- A character in front of what was read. -/
def consRead (c : Char) (read : Option (List Char × List Char)) : Option (List Char × List Char) :=
  read.map fun r => (c :: r.1, r.2)

/-- The content of a basic string behind its opening quotes, and what follows it. -/
def basicBody? (multi : Bool) (state : BasicState) (text : List Char) :
    Option (List Char × List Char) :=
  match state, text with
  | _, [] => none
  | .plain, c :: cs =>
    match closing? basicQuote multi (c :: cs) with
    | some read => some read
    | none =>
      if c = '\x5c' then basicBody? multi .escape cs
      else if c = '\n' then if multi then consRead '\n' (basicBody? multi .plain cs) else none
      else if c = '\r' then
        if multi ∧ cs.head? = some '\n' then basicBody? multi .plain cs else none
      else if isControl c then none
      else consRead c (basicBody? multi .plain cs)
  | .escape, c :: cs =>
    if c = 'u' then basicBody? multi (.code 4 0) cs
    else if c = 'U' then basicBody? multi (.code 8 0) cs
    else
      match escaped? c with
      | some d => consRead d (basicBody? multi .plain cs)
      | none =>
        if multi ∧ [' ', '\t', '\n', '\r'].contains c then
          if c = '\r' ∧ cs.head? ≠ some '\n' then none
          else basicBody? multi (.gap (c == '\n')) cs
        else none
  | .code left value, c :: cs =>
    match hexDigitValue? c with
    | none => none
    | some d =>
      let value := 16 * value + d
      if left ≤ 1 then
        match charOfCode? value with
        | some c => consRead c (basicBody? multi .plain cs)
        | none => none
      else basicBody? multi (.code (left - 1) value) cs
  | .gap broken, c :: cs =>
    if c = ' ' ∨ c = '\t' then basicBody? multi (.gap broken) cs
    else if c = '\n' then basicBody? multi (.gap true) cs
    else if c = '\r' ∧ cs.head? = some '\n' then basicBody? multi (.gap broken) cs
    else if broken then basicBody? multi .plain (c :: cs)
    else none
termination_by (text.length, match state with | .gap _ => 1 | _ => 0)

/-- The content of a literal string behind its opening quotes, and what follows it. -/
def literalBody? (multi : Bool) : List Char → Option (List Char × List Char)
  | [] => none
  | c :: cs =>
    match closing? literalQuote multi (c :: cs) with
    | some read => some read
    | none =>
      if c = '\n' then if multi then consRead '\n' (literalBody? multi cs) else none
      else if c = '\r' then
        if multi ∧ cs.head? = some '\n' then literalBody? multi cs else none
      else if isControl c then none
      else consRead c (literalBody? multi cs)

/-- What follows a line break. -/
def dropBreak : List Char → List Char
  | '\n' :: cs => cs
  | '\r' :: '\n' :: cs => cs
  | cs => cs

/-- What follows three quotes. -/
def afterTriple? (quote : Char) : List Char → Option (List Char)
  | a :: b :: c :: cs => if a = quote ∧ b = quote ∧ c = quote then some cs else none
  | _ => none

/-- A string of one line, between single or double quotes, and what follows it. -/
def lineString? : List Char → Option (List Char × List Char)
  | c :: cs =>
    if c = basicQuote then basicBody? false .plain cs
    else if c = literalQuote then literalBody? false cs
    else none
  | [] => none

/-- A string of any form, and what follows it. -/
def string? (cs : List Char) : Option (List Char × List Char) :=
  match afterTriple? basicQuote cs with
  | some body => basicBody? true .plain (dropBreak body)
  | none =>
    match afterTriple? literalQuote cs with
    | some body => literalBody? true (dropBreak body)
    | none => lineString? cs

/-! ## Writing -/

/-- The length of the longest run of a character. -/
def longestRun (x : Char) (cs : List Char) : Nat :=
  (cs.foldl (fun (best, run) c =>
    let run := if c = x then run + 1 else 0
    (max best run, run)) (0, 0)).1

/-- A character that only an escape can write. -/
def needsEscape (c : Char) : Bool := c != '\n' && isControl c

/-- How a character is written inside a basic string; `run` double quotes stand before it, and
`free` of them may. -/
def basicChar (multi : Bool) (free run : Nat) (c : Char) : List Char :=
  if c = '\x22' then if run < free then [c] else ['\x5c', c]
  else if c = '\x08' then ['\x5c', 'b']
  else if c = '\t' then ['\x5c', 't']
  else if c = '\n' then if multi then [c] else ['\x5c', 'n']
  else if c = '\x0c' then ['\x5c', 'f']
  else if c = '\r' then ['\x5c', 'r']
  else if c = '\x5c' then ['\x5c', c]
  else if isControl c then
    ['\x5c', 'u', '0', '0', hexDigitUpper (c.toNat / 16), hexDigitUpper (c.toNat % 16)]
  else [c]

/-- The content of a basic string. -/
def basicChars (multi : Bool) (run : Nat) : List Char → List Char
  | [] => []
  | c :: cs =>
    let free := if multi then 2 else 0
    let next := if c = '\x22' ∧ run < free then run + 1 else 0
    basicChar multi free run c ++ basicChars multi next cs

/-- A basic string. -/
def basicString (multi : Bool) (cs : List Char) : List Char :=
  if multi then
    let start := if cs.contains '\n' then ['\n'] else []
    List.replicate 3 basicQuote ++ start ++ basicChars true 0 cs ++ List.replicate 3 basicQuote
  else
    basicQuote :: basicChars false 0 cs ++ [basicQuote]

/-- A literal string. -/
def literalString (multi : Bool) (cs : List Char) : List Char :=
  if multi then
    let start := if cs.contains '\n' then ['\n'] else []
    List.replicate 3 literalQuote ++ start ++ cs ++ List.replicate 3 literalQuote
  else
    literalQuote :: cs ++ [literalQuote]

/-- A string in the simplest form that can write it. -/
def stringChars (cs : List Char) : List Char :=
  let controls := cs.any needsEscape
  let backslash := cs.contains '\x5c'
  let broken := cs.contains '\n'
  if !controls && !backslash && !broken && !cs.contains basicQuote then basicString false cs
  else if !controls && !broken && !cs.contains literalQuote then literalString false cs
  else if !controls && !backslash && longestRun basicQuote cs ≤ 2 then basicString true cs
  else if !controls && longestRun literalQuote cs ≤ 2 then literalString true cs
  else basicString broken cs

end Toml

end Logbook
