import Logbook.Calendar.Timestamp
import Logbook.Number.Reading
import Logbook.Query.Basic

/-!
# Values on a command line

Instants, intervals, scopes, ranges of numbers and series as a user writes them in one word. What is
wrong with a word is an `ArgumentFault`.
-/

set_option autoImplicit false

namespace Logbook

/-- Why a word is no value of the kind that is wanted. -/
inductive ArgumentFault where
  | noInstant (word : String)
  | noAmount (word : String)
  | noUnit (word : String)
  | unknownUnit (unit word : String)
  | zeroInterval
  | hugeInterval (word : String)
  | noScope (word : String)
  | noRange (word : String)
  | reversedRange (word : String)
  | noSeries (word : String)
deriving DecidableEq, Repr

namespace ArgumentFault

/-- The wording of a fault. Why a word is no date and time, which the reader of dates says behind
it, is left out. -/
def message : ArgumentFault → String
  | noInstant word => "'" ++ word ++ "' is neither RFC 3339 nor epoch millis"
  | noAmount word => "missing amount in '" ++ word ++ "'"
  | noUnit word => "missing unit in '" ++ word ++ "' (ms, s, m, h, d)"
  | unknownUnit unit word => "unknown unit '" ++ unit ++ "' in '" ++ word ++ "'"
  | zeroInterval => "interval must be positive"
  | hugeInterval word => "interval '" ++ word ++ "' is too large"
  | noScope word => "expected field=id, got '" ++ word ++ "'"
  | noRange word => "expected from-to, got '" ++ word ++ "'"
  | reversedRange word => "range '" ++ word ++ "' starts after it ends"
  | noSeries word => "expected <field> or <by|min|max|avg>:<field>, got '" ++ word ++ "'"

end ArgumentFault

namespace Argument

/-! ## Instants -/

/-- The 64-bit integer that characters write. -/
def int64OfChars? (cs : List Char) : Option Int64 :=
  ((intOfChars? cs).filter fun n => -2 ^ 63 ≤ n ∧ n < 2 ^ 63).map Int64.ofInt

/-- An instant: a number of milliseconds, or a date and a time with an offset. -/
def instant (word : String) : Except ArgumentFault Int64 :=
  match int64OfChars? word.toList with
  | some millis => .ok millis
  | none =>
    match strictInstant? word with
    | some millis => .ok (Int64.ofInt millis)
    | none => .error (.noInstant word)

/-! ## Intervals -/

/-- The units of intervals, in milliseconds. -/
def units : List (String × Nat) :=
  [("ms", 1), ("s", 1000), ("m", 60000), ("h", 3600000), ("d", 86400000)]

/-- An interval: an amount and a unit. White space around them means nothing. -/
def interval (word : String) : Except ArgumentFault Interval :=
  let word := trim word
  let (amount, unit) := spanDigits word.toList
  let unit := String.ofList unit
  match (natOfDigits? amount).filter (· < UInt64.size) with
  | none => .error (.noAmount word)
  | some amount =>
    match units.lookup unit with
    | none => .error (if unit = "" then .noUnit word else .unknownUnit unit word)
    | some factor =>
      if UInt64.size ≤ amount * factor then .error (.hugeInterval word)
      else
        match Interval.ofMillis (UInt64.ofNat (amount * factor)) with
        | .ok interval => .ok interval
        | .error _ => .error .zeroInterval

/-! ## Scopes -/

/-- A scope: a field and an identifier with an equals sign between them. -/
def scope (word : String) : Except ArgumentFault Scope :=
  match splitAt? (· == '=') word.toList with
  | some (field, id) =>
    if field = [] ∨ id = [] then .error (.noScope word)
    else .ok ⟨String.ofList field, String.ofList id⟩
  | none => .error (.noScope word)

/-! ## Ranges of numbers -/

/-- The number that characters write; white space around them means nothing. -/
def numberOfChars? (cs : List Char) : Option Binary64 :=
  Binary64.ofText? (trim (String.ofList cs))

/-- The two sides of the hyphen in a range. The first character is never the hyphen, because it may
be a sign; it has to be one of ASCII. -/
def splitRange? : List Char → Option (List Char × List Char)
  | [] => none
  | c :: cs =>
    if c.toNat < 128 then (splitAt? (· == '-') cs).map fun sides => (c :: sides.1, sides.2)
    else none

/-- A range: two numbers with a hyphen between them. -/
def numberRange (word : String) : Except ArgumentFault NumberRange :=
  let sides := (splitRange? word.toList).bind fun (low, high) => do
    return (← numberOfChars? low, ← numberOfChars? high)
  match sides with
  | none => .error (.noRange word)
  | some (low, high) => if low.gt high then .error (.reversedRange word) else .ok ⟨low, high⟩

/-! ## Series -/

/-- The measures that may stand before a field. -/
def measures : List (String × Measure) :=
  ("by", .counts) :: Metric.names.map fun entry => (entry.1, .metric entry.2)

/-- A series: a field whose values are counted, or a measure and a field with a colon between
them. -/
def series (word : String) : Except ArgumentFault SeriesSpec :=
  match splitAt? (· == ':') word.toList with
  | none => if word = "" then .error (.noSeries word) else .ok ⟨.counts, word⟩
  | some (measure, field) =>
    match measures.lookup (String.ofList measure) with
    | some measure =>
      if field = [] then .error (.noSeries word) else .ok ⟨measure, String.ofList field⟩
    | none => .error (.noSeries word)

end Argument

/-! ## Values of any kind -/

/-- A value. -/
inductive ArgumentValue where
  /-- The value of what is just given. -/
  | given
  | text (text : String)
  | instant (millis : Int64)
  | interval (interval : Interval)
  | scope (scope : Scope)
  | numberRange (range : NumberRange)
  | series (spec : SeriesSpec)
  | uint32 (n : UInt32)
deriving DecidableEq, Repr

/-- What a value has to be. -/
inductive ArgumentKind where
  /-- Any text. -/
  | text
  /-- A text that is not empty. -/
  | path
  | instant
  | interval
  | scope
  | numberRange
  | series
  /-- A natural number of 32 bits. -/
  | uint32
deriving DecidableEq, Repr

namespace ArgumentKind

/-- The value of a kind that a word writes. A fault may be without a wording. -/
def read (kind : ArgumentKind) (word : String) : Except (Option ArgumentFault) ArgumentValue :=
  match kind with
  | text => .ok (.text word)
  | path => if word = "" then .error none else .ok (.text word)
  | instant => ((Argument.instant word).map .instant).mapError some
  | interval => ((Argument.interval word).map .interval).mapError some
  | scope => ((Argument.scope word).map .scope).mapError some
  | numberRange => ((Argument.numberRange word).map .numberRange).mapError some
  | series => ((Argument.series word).map .series).mapError some
  | uint32 =>
    match Argument.int64OfChars? word.toList with
    | some n =>
      if 0 ≤ n.toInt ∧ n.toInt < 2 ^ 32 then .ok (.uint32 (UInt32.ofNat n.toInt.toNat))
      else .error none
    | none => .error none

end ArgumentKind

namespace ArgumentValue

/-- The text that a value is. -/
def text? : ArgumentValue → Option String
  | text value => some value
  | _ => none

/-- The instant that a value is. -/
def instant? : ArgumentValue → Option Int64
  | instant value => some value
  | _ => none

/-- The interval that a value is. -/
def interval? : ArgumentValue → Option Interval
  | interval value => some value
  | _ => none

/-- The scope that a value is. -/
def scope? : ArgumentValue → Option Scope
  | scope value => some value
  | _ => none

/-- The range of numbers that a value is. -/
def numberRange? : ArgumentValue → Option NumberRange
  | numberRange value => some value
  | _ => none

/-- The series that a value is. -/
def series? : ArgumentValue → Option SeriesSpec
  | series value => some value
  | _ => none

/-- The number of 32 bits that a value is. -/
def uint32? : ArgumentValue → Option UInt32
  | uint32 value => some value
  | _ => none

end ArgumentValue

end Logbook
