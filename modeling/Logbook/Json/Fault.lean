import Logbook.Json.Printer
import Logbook.Text.Quoted

/-!
# Why a value is not of the expected form
-/

set_option autoImplicit false

namespace Logbook

/-- What is wrong with a JSON value where a value of some form was expected. -/
inductive Fault where
  /-- A value of another kind. -/
  | mistyped (found : Json) (expected : String)
  /-- An integer outside the expected range. -/
  | outOfRange (found : Int) (expected : String)
  /-- A record without a field that it needs. -/
  | missing (field : String)
  /-- A record with a field twice. -/
  | repeated (field : String)
  /-- A record written as an array that ends before the item at an index. -/
  | tooShort (length : Nat) (expected : String)
  /-- A record written as an array of too many items. -/
  | tooLong (length : Nat)
  /-- A value that has none of the alternative forms. -/
  | noAlternative (choice : String)
  /-- A text that is none of the names of a choice. -/
  | unknownName (found : String)
  /-- A value of the right kind that its meaning rules out. -/
  | refused (reason : String)
deriving Repr

namespace Json

/-- A value named in a message: simple values in full, others by their kind. -/
def describe : Json → String
  | .null => "null"
  | .bool value => "boolean `" ++ (if value then "true" else "false") ++ "`"
  | .int value => "integer `" ++ intText value ++ "`"
  | .float value => "floating point `" ++ numberLayout.text (.finite value) ++ "`"
  | .string value => "string " ++ quoted value
  | .array _ => "sequence"
  | .object _ => "map"

end Json

namespace Fault

/-- The wording of a fault. -/
def message : Fault → String
  | .mistyped found expected => "invalid type: " ++ found.describe ++ ", expected " ++ expected
  | .outOfRange found expected =>
    "invalid value: integer `" ++ intText found ++ "`, expected " ++ expected
  | .missing field => "missing field `" ++ field ++ "`"
  | .repeated field => "duplicate field `" ++ field ++ "`"
  | .tooShort length expected =>
    "invalid length " ++ natText length ++ ", expected " ++ expected
  | .tooLong length =>
    "invalid length " ++ natText length ++ ", expected fewer elements in array"
  | .noAlternative choice => "data did not match any variant of untagged enum " ++ choice
  | .unknownName found => "unknown variant `" ++ found ++ "`"
  | .refused reason => reason

end Fault

end Logbook
