import Logbook.Url.Label

/-!
# Domain names

A domain name is compared in one form: every character replaced by the one that stands for it in
names, letters and marks composed, and every label written in ASCII.
-/

set_option autoImplicit false

namespace Logbook

namespace Domain

/-- Characters that may not occur in a name. -/
def isForbidden (c : Char) : Bool :=
  c.toNat ≤ 0x20 || c.toNat == 0x7F ||
    ['%', '#', '/', ':', '<', '>', '?', '@', '[', '\x5c', ']', '^', '|'].contains c

/-- The labels of a name. -/
def labels? (text : String) : Option (List Label) := do
  let mapped ← text.toList.mapM NameTable.map?
  (splitBy (· == '.') (Composition.compose mapped.flatten)).mapM Label.ofChars?

/-- The form of a name in which names are compared. -/
def ofText? (text : String) : Option String := do
  let labels ← labels? text
  let name := List.intercalate ['.'] (labels.map Label.written)
  if name.any isForbidden || !Label.areOrdered labels then none else some (String.ofList name)

end Domain

end Logbook
