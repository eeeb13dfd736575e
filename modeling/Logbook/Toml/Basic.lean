import Logbook.Json.Basic

/-!
# TOML documents

A document is a tree of tables. While it is read it is remembered how each table came to be, since
that decides what may still be added to it: a table with a header of its own may not be opened
again, and one that arose from a dotted key grows by dotted keys only.
-/

set_option autoImplicit false

namespace Logbook

/-- A value in a document. -/
inductive Toml where
  | string (value : String)
  | integer (value : Int)
  | float (value : Binary64)
  | bool (value : Bool)
  /-- A date, a time or both, as written. -/
  | moment (text : String)
  | array (items : List Toml)
  | table (entries : List (String × Toml))
deriving Inhabited

namespace Toml

/-- How a table came to be. -/
inductive Origin where
  /-- By the header of a table below it. -/
  | implied
  /-- By a dotted key. -/
  | dotted
  /-- By a header of its own. -/
  | declared
deriving DecidableEq

/-- A node of a document that is being read. -/
inductive Node where
  | value (value : Toml)
  | table (origin : Origin) (entries : List (String × Node))
  /-- An array of tables, each element with a header of its own. -/
  | tables (elements : List (List (String × Node)))
deriving Inhabited

/-- The entries of a table that is being read. -/
abbrev Entries := List (String × Node)

namespace Entries

/-- Entries with the node of one key changed; a new key is added at the end. -/
def update (key : String) (change : Option Node → Option Node) : Entries → Option Entries
  | [] => (change none).map fun node => [(key, node)]
  | entry :: rest =>
    if entry.1 = key then (change (some entry.2)).map fun node => (key, node) :: rest
    else (update key change rest).map (entry :: ·)

/-- Changes the table at the end of a path, beginning at a table of an origin. Tables that are
missing on the way are made; those of dotted keys do not pass through a declared table. -/
def descend (dotted : Bool) (change : Origin → Entries → Option Entries) :
    List String → Origin → Entries → Option Entries
  | [], origin, entries => change origin entries
  | key :: path, _, entries =>
    entries.update key fun
      | none =>
        let origin := if dotted then .dotted else .implied
        (descend dotted change path origin []).map (.table origin)
      | some (.value _) => none
      | some (.tables elements) =>
        match elements.getLast? with
        | none => none
        | some last =>
          (descend dotted change path .declared last).map fun last =>
            .tables (elements.dropLast ++ [last])
      | some (.table origin inner) =>
        if dotted ∧ origin = .declared then none
        else (descend dotted change path origin inner).map (.table origin)

/-- Puts a value under a dotted key of a table; the key must be new, and the table before its last
part must be one that dotted keys made. -/
def assign (path : List String) (value : Toml) (origin : Origin) (entries : Entries) :
    Option Entries :=
  match path.getLast? with
  | none => none
  | some key =>
    let front := path.dropLast
    descend true (fun origin entries =>
      if (origin = .dotted) = front.isEmpty then none
      else
        entries.update key fun
          | none => some (.value value)
          | some _ => none) front origin entries

/-- Opens the table of a header. -/
def declare (path : List String) (root : Entries) : Option Entries :=
  match path.getLast? with
  | none => none
  | some key =>
    descend false (fun _ entries =>
      entries.update key fun
        | none => some (.table .declared [])
        | some (.table .implied entries) => some (.table .declared entries)
        | some _ => none) path.dropLast .declared root

/-- Opens the next table of an array. -/
def declareElement (path : List String) (root : Entries) : Option Entries :=
  match path.getLast? with
  | none => none
  | some key =>
    descend false (fun _ entries =>
      entries.update key fun
        | none => some (.tables [[]])
        | some (.tables elements) => some (.tables (elements ++ [[]]))
        | some _ => none) path.dropLast .declared root

end Entries

namespace Node

mutual

/-- The value that a node has become when the document is read. -/
def toToml : Node → Toml
  | value v => v
  | table _ entries => .table (entriesToToml entries)
  | tables elements => .array (elementsToToml elements)

/-- The values of entries. -/
def entriesToToml : List (String × Node) → List (String × Toml)
  | [] => []
  | (key, node) :: rest => (key, node.toToml) :: entriesToToml rest

/-- The tables of an array. -/
def elementsToToml : List (List (String × Node)) → List Toml
  | [] => []
  | entries :: rest => .table (entriesToToml entries) :: elementsToToml rest

end

end Node

/-! ## Statements -/

/-- One line of a document that says something. -/
inductive Statement where
  | assign (path : List String) (value : Toml)
  | table (path : List String)
  | element (path : List String)

namespace Statement

/-- A document up to some statement: where it is, and what has been said. -/
structure Progress where
  place : List String
  root : Entries

/-- A document with one more statement. -/
def run (progress : Progress) : Statement → Option Progress
  | assign path value =>
    (Entries.descend false (Entries.assign path value) progress.place .declared
      progress.root).map fun root => { progress with root }
  | table path => (Entries.declare path progress.root).map fun root => ⟨path, root⟩
  | element path => (Entries.declareElement path progress.root).map fun root => ⟨path, root⟩

/-- The entries of the document that some statements make. -/
def document? (statements : List Statement) : Option (List (String × Toml)) :=
  (statements.foldlM run ⟨[], []⟩).map fun progress => Node.entriesToToml progress.root

end Statement

/-! ## As JSON -/

mutual

/-- The JSON value to which a value corresponds. A moment is an object with a name that nothing else
has; infinities and `nan`, which have no counterpart, become a number all the same. -/
def toJson : Toml → Json
  | string value => .string value
  | integer value => .int value
  | float value => .float (value.finite?.getD (Finite64.zero false))
  | bool value => .bool value
  | moment text => .object [("$moment", .string text)]
  | array items => .array (itemsToJson items)
  | table entries => .object (entriesToJson entries)

/-- The JSON values of the items of an array. -/
def itemsToJson : List Toml → List Json
  | [] => []
  | item :: rest => item.toJson :: itemsToJson rest

/-- The JSON fields of the entries of a table. -/
def entriesToJson : List (String × Toml) → List (String × Json)
  | [] => []
  | (key, value) :: rest => (key, value.toJson) :: entriesToJson rest

end

end Toml

end Logbook
