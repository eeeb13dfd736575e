import Logbook.Inquiry.Basic

/-!
# Commands

What a user can tell the program to do, free of the form in which it is typed.
-/

set_option autoImplicit false

namespace Logbook

/-- Which documents a user asks about. -/
structure WindowChoice where
  start : Option Int64
  stop : Option Int64
  /-- The width of a window that ends now, in milliseconds. -/
  last : Option UInt64
  scope : Option Scope
  text : Option String
deriving DecidableEq, Repr

namespace WindowChoice

/-- No choice at all. -/
def all : WindowChoice := ⟨none, none, none, none, none⟩

/-- The time that is chosen at an instant. A window that ends now comes before one that has a start;
an end alone means nothing, and a start alone is the start of a window that ends now. -/
def range (choice : WindowChoice) (now : Int64) : Except QueryFault (Option TimeRange) :=
  match choice.last, choice.start with
  | some width, _ => .ok (some (.upTo width.toInt64 now))
  | none, some start => do return some (← TimeRange.between start (choice.stop.getD now))
  | none, none => .ok none

/-- The documents that are chosen at an instant. -/
def filter (choice : WindowChoice) (now : Int64) : Except QueryFault Filter := do
  return ⟨← choice.range now, choice.scope, choice.text⟩

end WindowChoice

/-- What a user can tell the program to do. -/
inductive Command where
  /-- Counts requests. -/
  | count (window : WindowChoice)
  /-- Groups requests by the values of a field, or by ranges of them. -/
  | groups (window : WindowChoice) (field : String) (ranges : List NumberRange)
    (order : Option GroupOrder)
  /-- Shows how series of requests develop in time. -/
  | histogram (window : WindowChoice) (interval : Interval) (series : List SeriesSpec)
  /-- Shows a page of requests, newest first. -/
  | logs (window : WindowChoice) (page size : UInt32)
  /-- Shows a recorded exchange. -/
  | requestLog (id : String)
  /-- Shows how large a share of the health checks succeeded. -/
  | availability (window : WindowChoice) (group : HealthGroup)
  /-- Shows how long the health checks took. -/
  | responseTime (window : WindowChoice) (group : HealthGroup)
  /-- Shows a page of health checks, newest first. -/
  | healthLogs (window : WindowChoice) (page size : UInt32)
  /-- Shows a health check. -/
  | healthCheck (id : String)
  /-- Shows how a gateway is. -/
  | monitoring (gateway : String)
  /-- Shows whether the nodes answer. -/
  | ping
deriving DecidableEq, Repr

/-- What is to be done, with the window of the command already set in time. -/
inductive Task where
  /-- Asks a question about requests. -/
  | analytics (query : Query)
  /-- Shows a page of requests. -/
  | logs (filter : Filter) (page size : UInt32)
  /-- Shows a recorded exchange. -/
  | requestLog (id : String)
  /-- Asks a question about health checks. -/
  | health (query : Query)
  /-- Shows a health check. -/
  | healthCheck (id : String)
  /-- Shows how a gateway is. -/
  | monitoring (gateway : String)
  /-- Shows whether the nodes answer. -/
  | ping
deriving DecidableEq, Repr

namespace Command

/-- What a command given at an instant is to do. -/
def task (now : Int64) : Command → Except QueryFault Task
  | count window => do return .analytics ⟨← window.filter now, .count⟩
  | groups window field ranges order => do
    return .analytics ⟨← window.filter now, .groups field ranges order⟩
  | histogram window interval series => do
    return .analytics ⟨← window.filter now, .histogram interval series⟩
  | logs window page size => do return .logs (← window.filter now) page size
  | requestLog id => .ok (.requestLog id)
  | availability window group => do
    return .health ⟨← window.filter now, .availability group⟩
  | responseTime window group => do
    return .health ⟨← window.filter now, .responseTime group⟩
  | healthLogs window page size => do return .health ⟨← window.filter now, .logs page size⟩
  | healthCheck id => .ok (.healthCheck id)
  | monitoring gateway => .ok (.monitoring gateway)
  | ping => .ok .ping

end Command

end Logbook
