import Logbook.Command.Basic
import Logbook.Command.Options

/-!
# Command lines

A command line names a command. Options that all commands have in common may stand before its name
or behind it; where one stands in both places the one behind counts. The other options and the
argument of a command stand behind its name.
-/

set_option autoImplicit false

namespace Logbook

/-- The names of commands. -/
inductive CommandName where
  | count
  | groupBy
  | histogram
  | logs
  | log
  | availability
  | responseTime
  | healthLogs
  | healthLog
  | monitor
  | ping
deriving DecidableEq, Repr

namespace CommandName

/-- The commands by name. -/
def names : List (String × CommandName) :=
  [("count", count), ("group-by", groupBy), ("histogram", histogram), ("logs", logs),
    ("log", log), ("availability", availability), ("response-time", responseTime),
    ("health-logs", healthLogs), ("health-log", healthLog), ("monitor", monitor), ("ping", ping)]

end CommandName

/-- What is typed on a command line. -/
structure CommandLine where
  /-- The file that holds the configuration. -/
  config : Option String
  /-- The request is shown and not sent. -/
  dryRun : Bool
  command : Command
deriving DecidableEq, Repr

/-! ## Options -/

namespace CommandOption

/-- The file that holds the configuration. -/
def config : CommandOption := ⟨"config", some 'c', .value .path⟩

/-- The request is shown and not sent. -/
def dryRun : CommandOption := ⟨"dry-run", none, .flag⟩

/-- What can be done is shown. -/
def help : CommandOption := ⟨"help", some 'h', .stop .helpWanted⟩

/-- The version is shown. -/
def version : CommandOption := ⟨"version", some 'V', .stop .versionWanted⟩

/-- An option with a value and no letter. -/
def named (name : String) (kind : ArgumentKind) : CommandOption := ⟨name, none, .value kind⟩

/-- The options that all commands have in common. -/
def common : List CommandOption := [config, dryRun, help]

/-- The options that choose documents. -/
def window : List CommandOption :=
  [named "from" .instant, named "to" .instant, named "last" .interval, named "root" .scope,
    ⟨"query", some 'q', .value .text⟩]

/-- The options that choose a page. -/
def page : List CommandOption := [named "page" .uint32, named "size" .uint32]

/-- Documents are grouped by gateway. -/
def byGateway : CommandOption := ⟨"by-gateway", none, .flag⟩

end CommandOption

namespace CommandName

/-- The options of a command. -/
def options (name : CommandName) : List CommandOption :=
  CommandOption.common ++
    match name with
    | count => CommandOption.window
    | groupBy =>
      CommandOption.window ++
        [⟨"field", some 'f', .value .text⟩, ⟨"range", none, .values .numberRange⟩,
          .named "order-by" .text, ⟨"asc", none, .flag⟩]
    | histogram =>
      CommandOption.window ++
        [⟨"interval", some 'i', .value .interval⟩, ⟨"aggregation", some 'a', .values .series⟩]
    | logs | healthLogs => CommandOption.window ++ CommandOption.page
    | availability | responseTime => CommandOption.window ++ [.byGateway]
    | log | healthLog | monitor | ping => []

/-- The name of the argument of a command, if it has one. -/
def argument? : CommandName → Option String
  | log | healthLog => some "ID"
  | monitor => some "GATEWAY_ID"
  | _ => none

end CommandName

/-! ## Values -/

namespace GivenOptions

/-- The documents that are chosen. The start and the end of a window are not given together with its
width, and the end only with the start. -/
def window (given : GivenOptions) : Except UsageFault WindowChoice := do
  given.needs "to" "from"
  given.excludes "last" "from"
  given.excludes "last" "to"
  return {
    start := (given.lookup "from").bind ArgumentValue.instant?
    stop := (given.lookup "to").bind ArgumentValue.instant?
    last := ((given.lookup "last").bind ArgumentValue.interval?).map Interval.millis
    scope := (given.lookup "root").bind ArgumentValue.scope?
    text := (given.lookup "query").bind ArgumentValue.text? }

/-- The number of the page that is chosen: the first, unless another is. -/
def page (given : GivenOptions) : UInt32 :=
  ((given.lookup "page").bind ArgumentValue.uint32?).getD 1

/-- The number of entries on a page: twenty, unless another is chosen. -/
def size (given : GivenOptions) : UInt32 :=
  ((given.lookup "size").bind ArgumentValue.uint32?).getD 20

/-- What health checks are grouped by. -/
def healthGroup (given : GivenOptions) : HealthGroup :=
  if given.has CommandOption.byGateway.name then .gateway else .endpoint

/-- The groups that are chosen. A direction is given only with a field that orders them. -/
def groups (given : GivenOptions) (window : WindowChoice) : Except UsageFault Command := do
  given.needs "asc" "order-by"
  let ranges := (given.values "range").filterMap ArgumentValue.numberRange?
  let order := (given.lookup "order-by").bind ArgumentValue.text?
  let direction := if given.has "asc" then Direction.ascending else .descending
  match (given.lookup "field").bind ArgumentValue.text? with
  | none => throw (.missing "--field")
  | some field => return .groups window field ranges (order.map fun field => ⟨field, direction⟩)

/-- An hour. -/
def defaultInterval : Interval := ⟨3600000, by decide⟩

/-- The width of the steps of a histogram: an hour, unless another is chosen. -/
def interval (given : GivenOptions) : Interval :=
  ((given.lookup "interval").bind ArgumentValue.interval?).getD defaultInterval

/-- The series that are chosen. -/
def series (given : GivenOptions) : List SeriesSpec :=
  (given.values "aggregation").filterMap ArgumentValue.series?

/-- The command of a name with its options and its argument, which is the empty text where the
command has none. -/
def command (given : GivenOptions) (name : CommandName) (argument : String) :
    Except UsageFault Command := do
  match name with
  | .count => return .count (← given.window)
  | .groupBy => given.groups (← given.window)
  | .histogram => return .histogram (← given.window) given.interval given.series
  | .logs => return .logs (← given.window) given.page given.size
  | .log => return .requestLog argument
  | .availability => return .availability (← given.window) given.healthGroup
  | .responseTime => return .responseTime (← given.window) given.healthGroup
  | .healthLogs => return .healthLogs (← given.window) given.page given.size
  | .healthLog => return .healthCheck argument
  | .monitor => return .monitoring argument
  | .ping => return .ping

end GivenOptions

/-! ## Reading -/

/-- The options on a command line of which nothing is left. -/
def ScannedWords.finish (scanned : ScannedWords) : Except UsageFault GivenOptions :=
  match scanned.rest with
  | [] => scanned.options.settle
  | word :: _ => .error (.unknownWord word)

namespace CommandName

/-- The options behind the name of a command, and its argument. -/
def arguments (name : CommandName) (words : List String) :
    Except UsageFault (GivenOptions × String) := do
  let scanned ← scanWords name.options .none words
  match name.argument?, scanned.rest with
  | none, _ => return (← scanned.finish, "")
  | some argument, [] => throw (.missing argument)
  | some _, word :: words => do
    let options := ⟨← scanned.options.settle, none⟩
    let behind ← if scanned.isLiteral then pure ⟨options, words, true⟩
      else scanWords name.options options words
    return (← behind.finish, word)

end CommandName

namespace CommandLine

/-- What words that ask for help ask for: help about everything or about one command. -/
def helpFault : List String → UsageFault
  | [] => .helpWanted
  | name :: words =>
    if name = "help" ∨ (CommandName.names.lookup name).isSome then
      match words with
      | [] => .helpWanted
      | word :: _ => .unknownWord word
    else .unknownWord name

/-- The options before the name of a command, the name, and the words behind it. -/
def splitCommand (words : List String) :
    Except UsageFault (ScannedOptions × CommandName × List String) := do
  let scanned ← scanWords (.version :: CommandOption.common) .none words
  match scanned.rest with
  | [] => throw .noCommand
  | word :: words =>
    if scanned.isLiteral then throw (.unknownWord word)
    else if word = "help" then throw (helpFault words)
    else
      match CommandName.names.lookup word with
      | some name => return (scanned.options, name, words)
      | none => throw (.unknownWord word)

/-- Reads the words of a command line. The option that is pending in front of the name of a command
is added only at the end. -/
def ofWords (words : List String) : Except UsageFault CommandLine := do
  let (before, name, words) ← splitCommand words
  let (behind, argument) ← name.arguments words
  let command ← behind.command name argument
  let before ← before.settle
  let all := behind ++ before
  let config := (all.lookup CommandOption.config.name).bind ArgumentValue.text?
  return ⟨config, all.has CommandOption.dryRun.name, command⟩

end CommandLine

end Logbook
