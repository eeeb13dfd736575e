import Logbook.Number.Binary64
import Logbook.Keyed

/-!
# JSON values

Numbers are either integers or finite binary numbers; the two are never equal. The fields of an
object are listed in the order in which they stand, and a text may repeat a key. A value is
*canonical* when the keys of each object ascend, so that none is repeated: then equal values are
equal lists. Everything this library writes is canonical.
-/

set_option autoImplicit false

namespace Logbook

/-- A JSON value. -/
inductive Json where
  | null
  | bool (value : Bool)
  | int (value : Int)
  | float (value : Finite64)
  | string (value : String)
  | array (items : List Json)
  | object (fields : List (String × Json))
deriving Repr, Inhabited

namespace Json

/-- The fields in ascending order of their keys, each value changed by `f`; of two fields with one
key the later counts. -/
def orderFields (fields : List (String × Json)) : List (String × Json) :=
  (Keyed.ofList fields).toList

mutual

/-- The canonical form of a value. -/
def canonical : Json → Json
  | .array items => .array (canonicalItems items)
  | .object fields => .object (orderFields (canonicalFields fields))
  | value => value

/-- The canonical forms of the items of an array. -/
def canonicalItems : List Json → List Json
  | [] => []
  | item :: items => item.canonical :: canonicalItems items

/-- Fields with their values in canonical form. -/
def canonicalFields : List (String × Json) → List (String × Json)
  | [] => []
  | (key, value) :: fields => (key, value.canonical) :: canonicalFields fields

end

mutual

/-- The keys of each object ascend, and each integer fits 64 bits with or without a sign. -/
def isCanonical : Json → Bool
  | .int n => -2 ^ 63 ≤ n && n < 2 ^ 64
  | .array items => allCanonical items
  | .object fields => fieldsCanonical fields
  | _ => true

/-- All items of an array are canonical. -/
def allCanonical : List Json → Bool
  | [] => true
  | item :: items => item.isCanonical && allCanonical items

/-- Fields with ascending keys and canonical values. -/
def fieldsCanonical : List (String × Json) → Bool
  | [] => true
  | (key, value) :: fields =>
    value.isCanonical && fields.all (fun field => key < field.1) && fieldsCanonical fields

end

/-- An object with the given fields. -/
def record (fields : List (String × Json)) : Json := .object (orderFields fields)

/-- An object with one field. -/
def single (key : String) (value : Json) : Json := .object [(key, value)]

/-- A value that may be absent. -/
def ofOption {α : Type} (write : α → Json) : Option α → Json
  | none => .null
  | some value => write value

/-- A list of values. -/
def ofList {α : Type} (write : α → Json) (values : List α) : Json := .array (values.map write)

/-- A number, where it is finite. -/
def ofBinary64 (x : Binary64) : Json :=
  match x.finite? with
  | some value => .float value
  | none => .null

/-- An integer of 64 bits with a sign. -/
def ofInt64 (n : Int64) : Json := .int n.toInt

/-- An integer of 64 bits without a sign. -/
def ofUInt64 (n : UInt64) : Json := .int n.toNat

/-- The object of a map, each value written by `write`. -/
def ofMap {α : Type} (write : α → Json) (m : Keyed α) : Json := .object (m.map write).toList

/-- The value of a field of an object. -/
def field? (key : String) : Json → Option Json
  | .object fields => fields.lookup key
  | _ => none

/-- The value is an object. -/
def isObject : Json → Bool
  | .object _ => true
  | _ => false

/-- The value is `null`. -/
def isNull : Json → Bool
  | .null => true
  | _ => false

end Json

end Logbook
