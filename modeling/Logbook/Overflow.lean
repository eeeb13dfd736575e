/-!
# Results that do not fit their types

Counts are added and instants subtracted in words of 64 bits, and only the days of the calendar have
dates. A result beyond that is no fault that somebody is told: whatever asks for it ends there. So
there are two ways to have no result, and `Halt` holds both.
-/

set_option autoImplicit false

namespace Logbook

/-- A result that its type cannot hold. -/
inductive Overflow where
  /-- The sum of two counts. -/
  | sum
  /-- The time between two instants. -/
  | difference
  /-- The date of a day outside the calendar. -/
  | date
deriving DecidableEq, Repr

namespace Overflow

/-- What the program says before it ends. -/
def message : Overflow → String
  | sum => "attempt to add with overflow"
  | difference => "attempt to subtract with overflow"
  | date => "local time out of range"

end Overflow

/-- The sum of two counts. -/
def addCounts (a b : UInt64) : Except Overflow UInt64 :=
  if a.toNat + b.toNat < UInt64.size then .ok (a + b) else .error .sum

/-- The time from one instant to another. -/
def timeBetween (start stop : Int64) : Except Overflow Int64 :=
  let time := stop.toInt - start.toInt
  if Int64.minValue.toInt ≤ time ∧ time ≤ Int64.maxValue.toInt then .ok (stop - start)
  else .error .difference

/-- Why there is no result. -/
inductive Halt (ε : Type) where
  /-- A fault, which is told. -/
  | fault (fault : ε)
  /-- An overflow, which is the end. -/
  | overflow (overflow : Overflow)
deriving DecidableEq, Repr

namespace Halt

variable {ε δ : Type}

/-- The same end with another fault to tell. -/
def map (f : ε → δ) : Halt ε → Halt δ
  | fault e => .fault (f e)
  | overflow o => .overflow o

end Halt

end Logbook
