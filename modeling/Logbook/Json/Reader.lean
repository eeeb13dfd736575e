import Logbook.Json.Fault

/-!
# Reading typed values

A reader turns a JSON value into a value of a type or tells what is wrong with it. A record is read
from an object field by field: the fields are visited in the order in which they stand, unknown
ones are passed over, and the first bad one is reported; only when all are good is the first field
reported that is missing, in the order of the record's own declaration. A record may also be
written as the array of its fields' values in that order.
-/

set_option autoImplicit false

namespace Logbook

/-- Reads a JSON value as a value of type `α`. -/
abbrev Reader (α : Type) := Json → Except Fault α

namespace Reader

variable {α β : Type}

/-- Any value, in canonical form. -/
def json : Reader Json := fun value => .ok value.canonical

/-- A text. -/
def string : Reader String
  | .string value => .ok value
  | value => .error (.mistyped value "a string")

/-- A truth value. -/
def bool : Reader Bool
  | .bool value => .ok value
  | value => .error (.mistyped value "a boolean")

/-- An integer between two bounds, the upper one excluded. -/
def integer (low high : Int) (name : String) : Reader Int
  | .int value =>
    if low ≤ value ∧ value < high then .ok value else .error (.outOfRange value name)
  | value => .error (.mistyped value name)

/-- An integer of 64 bits with a sign. -/
def int64 : Reader Int64 := fun value =>
  (integer (-2 ^ 63) (2 ^ 63) "i64" value).map Int64.ofInt

/-- An integer of 64 bits without a sign. -/
def uint64 : Reader UInt64 := fun value =>
  (integer 0 (2 ^ 64) "u64" value).map fun n => UInt64.ofNat n.toNat

/-- An integer of 32 bits without a sign. -/
def uint32 : Reader UInt32 := fun value =>
  (integer 0 (2 ^ 32) "u32" value).map fun n => UInt32.ofNat n.toNat

/-- An integer of 16 bits without a sign. -/
def uint16 : Reader UInt16 := fun value =>
  (integer 0 (2 ^ 16) "u16" value).map fun n => UInt16.ofNat n.toNat

/-- A number; an integer stands for the number nearest to it. -/
def binary64 : Reader Binary64
  | .int value => .ok (Binary64.ofInt value)
  | .float value => .ok (.finite value)
  | value => .error (.mistyped value "f64")

/-- A value that may be `null`. -/
def optional (read : Reader α) : Reader (Option α)
  | .null => .ok none
  | value => (read value).map some

/-- The items of an array, each read by `read`. -/
def items (read : Reader α) : List Json → Except Fault (List α)
  | [] => .ok []
  | item :: rest => do
    let value ← read item
    let values ← items read rest
    return value :: values

/-- An array. -/
def list (read : Reader α) : Reader (List α)
  | .array values => items read values
  | value => .error (.mistyped value "a sequence")

/-- The fields of an object, each value read by `read`. -/
def entries (read : Reader α) : List (String × Json) → Except Fault (List (String × α))
  | [] => .ok []
  | (key, item) :: rest => do
    let value ← read item
    let values ← entries read rest
    return (key, value) :: values

/-- An object as a map; of two fields with one key the later counts. -/
def keyed (read : Reader α) : Reader (Keyed α)
  | .object fields => (entries read fields).map Keyed.ofList
  | value => .error (.mistyped value "a map")

/-- The name of one of some choices. It may also be written as an object whose only key is the
name, with nothing under it; `isNothing` tells which values are nothing. -/
def choice (isNothing : Json → Bool) (choices : List (String × α)) : Reader α
  | .string name =>
    match choices.lookup name with
    | some value => .ok value
    | none => .error (.unknownName name)
  | .object [(name, inner)] =>
    match choices.lookup name with
    | some value =>
      if isNothing inner then .ok value else .error (.mistyped inner "unit")
    | none => .error (.unknownName name)
  | value => .error (.mistyped value "string or map")

end Reader

/-! ## Records -/

/-- One field of a record: its name, other names it goes by, and what its value has to be. -/
structure Slot where
  name : String
  aliases : List String
  check : Json → Except Fault Unit

namespace Slot

/-- The field goes by a name. -/
def answersTo (slot : Slot) (key : String) : Bool := slot.name == key || slot.aliases.contains key

end Slot

/-- Reads the fields of a record. From an object it takes the values of the fields by name, from an
array by place. -/
structure FieldReader (α : Type) where
  slots : List Slot
  ofFields : List (String × Json) → Except Fault α
  /-- Reads the items from a place on, `short` being the fault of an array that ends there. -/
  ofItems : (Nat → Fault) → Nat → List Json → Except Fault (α × Nat × List Json)

namespace FieldReader

variable {α β : Type}

/-- The value of a field that goes by a name or one of its aliases. -/
def valueOf (slot : Slot) (fields : List (String × Json)) : Option Json :=
  (fields.find? fun field => slot.answersTo field.1).map Prod.snd

instance : Functor FieldReader where
  map f r :=
    { slots := r.slots
      ofFields := fun fields => (r.ofFields fields).map f
      ofItems := fun short place items => do
        let (a, place, items) ← r.ofItems short place items
        return (f a, place, items) }

instance : Applicative FieldReader where
  pure a :=
    { slots := []
      ofFields := fun _ => .ok a
      ofItems := fun _ place items => .ok (a, place, items) }
  seq f r :=
    { slots := f.slots ++ (r ()).slots
      ofFields := fun fields => do
        let g ← f.ofFields fields
        let a ← (r ()).ofFields fields
        return g a
      ofItems := fun short place items => do
        let (g, place, items) ← f.ofItems short place items
        let (a, place, items) ← (r ()).ofItems short place items
        return (g a, place, items) }

/-- A field whose absence is settled by `absent` in an object and by `ended` in an array that ends
before it. -/
def slot (name : String) (aliases : List String) (read : Reader α)
    (absent : Except Fault α) (ended : Fault → Except Fault α) : FieldReader α :=
  let slot : Slot := ⟨name, aliases, fun value => (read value).map fun _ => ()⟩
  { slots := [slot]
    ofFields := fun fields =>
      match valueOf slot fields with
      | some value => read value
      | none => absent
    ofItems := fun short place items =>
      match items with
      | [] => (ended (short place)).map fun a => (a, place + 1, [])
      | item :: rest => (read item).map fun a => (a, place + 1, rest) }

/-- A field that has to be there. -/
def required (name : String) (read : Reader α) : FieldReader α :=
  slot name [] read (.error (.missing name)) .error

/-- A field that may be absent from an object or `null`. -/
def nullable (name : String) (read : Reader α) : FieldReader (Option α) :=
  slot name [] (Reader.optional read) (.ok none) .error

/-- A field with a value of its own where it is absent. -/
def withDefault (name : String) (read : Reader α) (default : α) (aliases : List String := []) :
    FieldReader α :=
  slot name aliases read (.ok default) fun _ => .ok default

/-- A field that may be absent, in an array too, or `null`. -/
def optional (name : String) (read : Reader α) (aliases : List String := []) :
    FieldReader (Option α) :=
  withDefault name (Reader.optional read) none aliases

/-- Visits fields in the order in which they stand: the first that is repeated or bad is
reported. -/
def visit (slots : List Slot) (seen : List String) : List (String × Json) → Except Fault Unit
  | [] => .ok ()
  | (key, value) :: rest =>
    match slots.find? (·.answersTo key) with
    | none => visit slots seen rest
    | some slot =>
      if seen.contains slot.name then .error (.repeated slot.name)
      else do
        slot.check value
        visit slots (slot.name :: seen) rest

/-- Reads a record from the fields of an object. -/
def readFields (r : FieldReader α) (fields : List (String × Json)) : Except Fault α := do
  visit r.slots [] fields
  r.ofFields fields

/-- What is expected of an array that stands for a record. -/
def shape (name : String) (r : FieldReader α) : String :=
  "struct " ++ name ++ " with " ++ natText r.slots.length ++
    (if r.slots.length = 1 then " element" else " elements")

/-- Reads a record from the items of an array. -/
def readItems (name : String) (r : FieldReader α) (items : List Json) : Except Fault α := do
  let (a, _, rest) ← r.ofItems (fun place => .tooShort place (r.shape name)) 0 items
  if rest.isEmpty then return a else throw (.tooLong items.length)

/-- Reads a record of a given name. -/
def record (name : String) (r : FieldReader α) : Reader α
  | .object fields => r.readFields fields
  | .array items => r.readItems name items
  | value => .error (.mistyped value ("struct " ++ name))

/-- Reads a record of a given name; items of an array behind those of the record mean nothing. -/
def leadingItems (name : String) (r : FieldReader α) : Reader α
  | .object fields => r.readFields fields
  | .array items => do
    let (a, _, _) ← r.ofItems (fun place => .tooShort place (r.shape name)) 0 items
    return a
  | value => .error (.mistyped value ("struct " ++ name))

/-- Reads a record from an object only. -/
def objectOnly (name : String) (r : FieldReader α) : Reader α
  | .object fields => r.readFields fields
  | value => .error (.mistyped value ("struct variant " ++ name))

end FieldReader

end Logbook
