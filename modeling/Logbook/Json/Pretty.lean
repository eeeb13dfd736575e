import Logbook.Json.Printer

/-!
# Writing JSON texts for people

The items of an array and the fields of an object stand on lines of their own, indented by two
blanks for each array or object around them.
-/

set_option autoImplicit false

namespace Logbook

namespace Json

/-- The break before a line at a depth. -/
def lineBreak (depth : Nat) : String := "\n" ++ String.ofList (List.replicate (2 * depth) ' ')

/-- Lines at a depth between an opening and a closing mark. -/
def block (depth : Nat) (opening closing : String) (lines : List String) : String :=
  if lines.isEmpty then opening ++ closing
  else
    opening ++ lineBreak (depth + 1) ++ String.intercalate ("," ++ lineBreak (depth + 1)) lines ++
      lineBreak depth ++ closing

mutual

/-- The text of a value at a depth. -/
def prettyAt (depth : Nat) : Json → String
  | .array items => block depth "[" "]" (prettyItems (depth + 1) items)
  | .object fields => block depth "\x7b" "\x7d" (prettyFields (depth + 1) fields)
  | value => value.print

/-- The texts of the items of an array. -/
def prettyItems (depth : Nat) : List Json → List String
  | [] => []
  | item :: items => item.prettyAt depth :: prettyItems depth items

/-- The texts of the fields of an object. -/
def prettyFields (depth : Nat) : List (String × Json) → List String
  | [] => []
  | (key, value) :: fields =>
    (stringText key ++ ": " ++ value.prettyAt depth) :: prettyFields depth fields

end

/-- The text of a value for people. -/
def pretty (value : Json) : String := value.prettyAt 0

end Json

end Logbook
