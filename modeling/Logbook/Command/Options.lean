import Logbook.Command.Argument
import Logbook.Text.Split

/-!
# Options on a command line

A command line is a list of words. A word that begins with a hyphen is an option: `--name`, or `-n`
for some, with its value behind an equals sign, directly behind the letter, or in the next word.
Behind the word `--` there are no options any more. Words are read from the first to the last, and
the first that makes no sense is reported: what stands behind a word that asks for help is not read.
-/

set_option autoImplicit false

namespace Logbook

/-- Why a command line makes no sense. -/
inductive UsageFault where
  /-- What can be done is to be shown. -/
  | helpWanted
  /-- The version is to be shown. -/
  | versionWanted
  | noCommand
  | unknownWord (word : String)
  | unknownOption (word : String)
  | valueWanted (option : String)
  | noValueWanted (option : String)
  | repeated (option : String)
  | missing (argument : String)
  /-- An option needs another one. -/
  | needs (option other : String)
  /-- Two options cannot both be given. -/
  | conflict (option other : String)
  | badValue (option word : String) (fault : Option ArgumentFault)
deriving DecidableEq, Repr

namespace UsageFault

/-- The wording of a fault. -/
def message : UsageFault → String
  | helpWanted => ""
  | versionWanted => ""
  | noCommand => "a command is required"
  | unknownWord word => "unexpected argument '" ++ word ++ "'"
  | unknownOption word => "unknown option '" ++ word ++ "'"
  | valueWanted option => "a value is required for '--" ++ option ++ "'"
  | noValueWanted option => "'--" ++ option ++ "' takes no value"
  | repeated option => "'--" ++ option ++ "' cannot be given more than once"
  | missing argument => "'" ++ argument ++ "' is required"
  | needs option other => "'--" ++ option ++ "' needs '--" ++ other ++ "'"
  | conflict option other => "'--" ++ option ++ "' cannot be given with '--" ++ other ++ "'"
  | badValue option word none => "invalid value '" ++ word ++ "' for '--" ++ option ++ "'"
  | badValue option word (some fault) =>
    "invalid value '" ++ word ++ "' for '--" ++ option ++ "': " ++ fault.message

end UsageFault

/-- What an option does. -/
inductive OptionKind where
  /-- It is given or not. -/
  | flag
  /-- It has a value. -/
  | value (kind : ArgumentKind)
  /-- It may be given several times, each time with a value. -/
  | values (kind : ArgumentKind)
  /-- It makes an end to the command line. -/
  | stop (fault : UsageFault)
deriving DecidableEq, Repr

namespace OptionKind

/-- There is a value. -/
def hasValue : OptionKind → Bool
  | value _ | values _ => true
  | flag | stop _ => false

/-- The option may be given several times. -/
def isRepeatable : OptionKind → Bool
  | values _ => true
  | flag | value _ | stop _ => false

/-- The value that a word writes. -/
def read (kind : OptionKind) (word : String) : Except (Option ArgumentFault) ArgumentValue :=
  match kind with
  | flag | stop _ => .ok .given
  | value kind | values kind => kind.read word

end OptionKind

/-- An option. -/
structure CommandOption where
  name : String
  letter : Option Char
  kind : OptionKind
deriving DecidableEq, Repr

/-! ## Words -/

/-- What a word is by its form. -/
inductive WordForm where
  | plain
  /-- The end of the options. -/
  | ending
  | long (name : String) (value : Option String)
  | short (letter : Char) (rest : List Char)
deriving DecidableEq, Repr

namespace WordForm

/-- The form of a word. A hyphen alone is plain. -/
def ofWord (word : String) : WordForm :=
  match word.toList with
  | ['-', '-'] => ending
  | '-' :: '-' :: cs =>
    match splitAt? (· == '=') cs with
    | some (name, value) => long (String.ofList name) (some (String.ofList value))
    | none => long (String.ofList cs) none
  | '-' :: c :: cs => short c cs
  | _ => plain

/-- The value that is written directly behind a letter. An equals sign between them means
nothing. -/
def valueOfRest : List Char → Option String
  | [] => none
  | '=' :: cs => some (String.ofList cs)
  | cs => some (String.ofList cs)

end WordForm

/-! ## Values -/

/-- The options that were given, with their values, in their order. -/
abbrev GivenOptions := List (String × ArgumentValue)

namespace GivenOptions

/-- The option is given. -/
def has (given : GivenOptions) (option : String) : Bool := (given.lookup option).isSome

/-- One more option, with the word for its value. Only some can be given once more. -/
def add (given : GivenOptions) (option : CommandOption) (word : String) :
    Except UsageFault GivenOptions :=
  if given.has option.name && !option.kind.isRepeatable then .error (.repeated option.name)
  else
    match option.kind.read word with
    | .ok value => .ok (given ++ [(option.name, value)])
    | .error fault => .error (.badValue option.name word fault)

/-- One option is given only where another one is. -/
def needs (given : GivenOptions) (option other : String) : Except UsageFault Unit :=
  if given.has option && !given.has other then .error (.needs option other) else .ok ()

/-- Two options are not both given. -/
def excludes (given : GivenOptions) (option other : String) : Except UsageFault Unit :=
  if given.has option && given.has other then .error (.conflict option other) else .ok ()

/-- The values of an option that may be given several times. -/
def values (given : GivenOptions) (option : String) : List ArgumentValue :=
  (given.filter (·.1 == option)).map Prod.snd

end GivenOptions

/-! ## Scanning -/

/-- Options while a command line is scanned. An option whose value is a word of its own is pending:
it is added when something follows it, or at the end. -/
structure ScannedOptions where
  given : GivenOptions
  pending : Option (CommandOption × String)
deriving DecidableEq, Repr

namespace ScannedOptions

/-- No options. -/
def none : ScannedOptions := ⟨[], .none⟩

/-- All options, with the pending one added. -/
def settle (scanned : ScannedOptions) : Except UsageFault GivenOptions :=
  match scanned.pending with
  | some (option, word) => scanned.given.add option word
  | .none => .ok scanned.given

end ScannedOptions

/-- What stands on a command line up to its first plain word. -/
structure ScannedWords where
  options : ScannedOptions
  rest : List String
  /-- There are no options in the rest. -/
  isLiteral : Bool
deriving DecidableEq, Repr

/-- What follows from an option and the value that is written in the same word: the word for its
value, or nothing where that is the next one. -/
def CommandOption.begin (option : CommandOption) (attached : Option String) :
    Except UsageFault (Option String) :=
  match option.kind, attached with
  | .value _, _ | .values _, _ => .ok attached
  | .flag, none => .ok (some "")
  | .stop fault, none => .error fault
  | .flag, some _ | .stop _, some _ => .error (.noValueWanted option.name)

/-- The option that a word begins, and the value that is written in the same word. What stands
behind a letter is a value only where the option has one. -/
def optionOfWord (options : List CommandOption) (word : String) :
    Except UsageFault (Option (CommandOption × Option String)) :=
  match WordForm.ofWord word with
  | .plain | .ending => .ok none
  | .long name value =>
    match options.find? fun option => option.name == name with
    | some option => .ok (some (option, value))
    | none => .error (.unknownOption word)
  | .short letter rest =>
    match options.find? fun option => option.letter == some letter with
    | some option =>
      .ok (some (option, if option.kind.hasValue then WordForm.valueOfRest rest else none))
    | none => .error (.unknownOption word)

/-- Scans words up to the first plain one. Each option adds the pending one before it, and is added
itself unless it becomes pending. -/
def scanWords (options : List CommandOption) (scanned : ScannedOptions) :
    List String → Except UsageFault ScannedWords
  | [] => .ok ⟨scanned, [], false⟩
  | word :: words => do
    match ← optionOfWord options word with
    | none =>
      if WordForm.ofWord word = .ending then return ⟨scanned, words, true⟩
      else return ⟨scanned, word :: words, false⟩
    | some (option, attached) =>
      let given ← scanned.settle
      match ← option.begin attached with
      | some value => scanWords options ⟨← given.add option value, none⟩ words
      | none =>
        match words with
        | [] => throw (.valueWanted option.name)
        | value :: rest =>
          if WordForm.ofWord value = .plain then
            scanWords options ⟨given, some (option, value)⟩ rest
          else throw (.valueWanted option.name)

end Logbook
