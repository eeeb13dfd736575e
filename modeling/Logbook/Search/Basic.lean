import Logbook.Query.Basic

/-!
# Searches

A search is what a query comes down to once it is known which partitions hold the documents: clauses
that a document has to satisfy, a tree of groups to be formed, and the part of the list of hits
that is wanted.
-/

set_option autoImplicit false

namespace Logbook

/-- One condition on a document. -/
inductive Clause where
  /-- An instant between two others. -/
  | within (field : String) (start stop : Int64)
  /-- A value of a field. -/
  | equals (field value : String)
  /-- A match with a text that a user typed. -/
  | text (query : String)
  /-- One of some identifiers. -/
  | ids (values : List String)
deriving DecidableEq, Repr

/-- An order of groups by a number computed in each of them. -/
structure GroupSort where
  series : String
  direction : Direction
deriving DecidableEq, Repr

/-- A group of numbers with its key. -/
structure RangeGroup where
  key : String
  range : NumberRange
deriving DecidableEq, Repr

/-- A group of instants that begins at an expression such as `now-1h` and has no end. -/
structure Window where
  key : String
  start : String
deriving DecidableEq, Repr

/-- How documents are grouped by a field. -/
inductive Grouping where
  /-- By steps of time; days begin at midnight in the offset. -/
  | histogram (interval : UInt64) (start stop : Int64) (offset : String)
  /-- By value. -/
  | values (size : Option UInt32) (order : Option GroupSort)
  /-- By ranges of numbers. -/
  | ranges (groups : List RangeGroup)
  /-- By ranges of time. -/
  | windows (groups : List Window)
deriving DecidableEq, Repr

/-- A tree of groups, with numbers at its leaves. -/
inductive Aggregation where
  | metric (name : String) (metric : Metric) (field : String)
  | groups (name field : String) (grouping : Grouping) (children : List Aggregation)
deriving Repr

namespace Aggregation

/-- The name at the root of a tree. -/
def name : Aggregation → String
  | metric name _ _ => name
  | groups name _ _ _ => name

/-- What is formed inside each group of the root. -/
def children : Aggregation → List Aggregation
  | metric _ _ _ => []
  | groups _ _ _ children => children

end Aggregation

/-- An order of hits by a field. -/
structure HitSort where
  field : String
  direction : Direction
deriving DecidableEq, Repr

/-- A search of one kind of documents in some partitions. -/
structure Search where
  kind : DocumentKind
  partitions : List String
  clauses : List Clause
  aggregation : Option Aggregation
  /-- How many hits are passed over. -/
  skip : UInt32
  /-- How many hits are wanted. -/
  size : UInt32
  order : Option HitSort
  /-- Patterns of fields that are left out of a hit. -/
  excludes : List String
deriving Repr

namespace Search

/-- The partitions as one text. -/
def partitionList (search : Search) : String := String.intercalate "," search.partitions

end Search

end Logbook
