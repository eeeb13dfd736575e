import Logbook.Text.Composition
import Logbook.Text.Direction
import Logbook.Text.Joining
import Logbook.Url.NameTable
import Logbook.Url.Punycode

/-!
# Labels of domain names

A domain name is a sequence of labels. A label with characters outside of ASCII has two forms: the
one in which it is read, and the one in ASCII in which it is written. A label may come in either.
-/

set_option autoImplicit false

namespace Logbook

/-- A label in its two forms. A label in ASCII is read as it is written. -/
structure Label where
  read : List Char
  written : List Char
deriving DecidableEq, Repr

namespace Label

/-- What the written form of a label begins with where it is not the form that is read. -/
def codeMark : List Char := ['x', 'n', '-', '-']

/-- How many characters a label with characters outside of ASCII may have. -/
def maxLength : Nat := 1000

/-- How many characters the code of a label may have. -/
def maxCodeLength : Nat := 2000

/-- All characters are in ASCII. -/
def isAscii (cs : List Char) : Bool := cs.all fun c => c.toNat < 128

/-- The characters make sense in this order: no mark without a letter before it, and each joiner
where letters are joined. -/
def isSound (cs : List Char) : Bool := !cs.head?.any isMark && Joining.isMeaningful [] cs

/-- The label of a code. A code stands for characters that are in the form in which names are
compared, and is only used where it is needed. -/
def ofCode? (code : List Char) : Option Label := do
  if !isAscii code || decide (maxCodeLength < code.length) then failure
  let read ← Punycode.decode? code
  if isAscii read || !isSound read then failure
  if !read.all NameTable.isKept || Composition.compose read != read then failure
  return ⟨read, codeMark ++ code⟩

/-- The label that characters write in either form. -/
def ofChars? (cs : List Char) : Option Label :=
  match afterStart? codeMark cs with
  | some code => ofCode? code
  | none =>
    if isAscii cs then some ⟨cs, cs⟩
    else if maxLength < cs.length ∨ isSound cs = false then none
    else some ⟨cs, codeMark ++ Punycode.encode cs⟩

/-- The label has characters that are written from the right. -/
def isFromRight (label : Label) : Bool :=
  label.read.any fun c => (WritingDirection.ofChar c).isFromRight

/-- Labels that are shown side by side can be told apart: where any of them is written from the
right, each of them is written in one direction. -/
def areOrdered (labels : List Label) : Bool :=
  !labels.any isFromRight || labels.all fun label => WritingDirection.isUniform label.read

end Label

end Logbook
