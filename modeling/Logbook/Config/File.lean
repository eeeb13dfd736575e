import Logbook.Config.Basic
import Logbook.Toml.Parser

/-!
# Configuration files

A configuration is kept as a TOML document. Reading one that was written gives the same
configuration back.
-/

set_option autoImplicit false

namespace Logbook

/-- Why a configuration file cannot be used. -/
inductive FileFault where
  | unreadable
  /-- The text is no document, or not that of a configuration. -/
  | malformed
  /-- A number is too large to be written. -/
  | unwritable
  | rejected (fault : ConfigFault)
deriving DecidableEq, Repr

namespace FileFault

/-- The wording of a fault. -/
def message : FileFault → String
  | unreadable => "the configuration file cannot be read"
  | malformed => "the configuration file is no configuration"
  | unwritable => "the configuration cannot be written"
  | rejected fault => fault.message

end FileFault

namespace ConfigFormat

/-- An empty table or array. -/
def isEmptyValue : Json → Bool
  | .object [] => true
  | .array [] => true
  | _ => false

/-- Configurations as TOML. -/
def toml : ConfigFormat := ⟨true, isEmptyValue⟩

end ConfigFormat

namespace Config

/-! ## Reading -/

/-- The configuration in a document, used or not. -/
def ofDocument? (text : String) : Option Config :=
  (Toml.document? text).bind fun entries =>
    (ConfigFormat.toml.read (.object (Toml.entriesToJson entries))).toOption

/-- The configuration in a file with the given text, if it can be used. -/
def ofFile (text : String) : Except FileFault Config :=
  match ofDocument? text with
  | none => .error .malformed
  | some config =>
    match config.check with
    | .ok () => .ok config
    | .error fault => .error (.rejected fault)

/-! ## Writing -/

/-- A string of a document. -/
def stringText (text : String) : String := String.ofList (Toml.stringChars text.toList)

/-- A list of strings; more than one are written on lines of their own. -/
def listText : List String → String
  | [] => "[]"
  | [text] => "[" ++ stringText text ++ "]"
  | texts => "[\n" ++ String.join (texts.map fun text => "    " ++ stringText text ++ ",\n") ++ "]"

/-- A line that gives a key its value. -/
def line (key value : String) : String := key ++ " = " ++ value ++ "\n"

/-- A line for a value that may be absent. -/
def optionalLine (key : String) : Option String → String
  | none => ""
  | some text => line key (stringText text)

/-- A truth value. -/
def boolText (value : Bool) : String := if value then "true" else "false"

/-- The document of a configuration. -/
def toText (config : Config) : String :=
  "[backend]\n" ++ line "endpoints" (listText config.nodes.endpoints) ++
    line "protocol" (stringText config.nodes.protocol.name) ++
    optionalLine "username" config.nodes.user ++
    optionalLine "password" config.nodes.password ++
    line "timeout_secs" (natText config.nodes.timeout.toNat) ++
    "\n[index]\n" ++ line "prefix" (stringText config.partitions.label) ++
    line "time_zone" (stringText config.partitions.offset) ++
    "\n[partition_cache]\n" ++ line "enabled" (boolText config.cache.enabled) ++
    line "ttl_secs" (natText config.cache.lifetime.toNat) ++
    "\n[logging]\n" ++ line "level" (stringText config.journal.level) ++
    line "format" (stringText config.journal.format)

/-- The text of a file that holds a configuration. A document has no integers of more than 63
bits. -/
def toFile (config : Config) : Except FileFault String :=
  if config.nodes.timeout.toNat < 2 ^ 63 ∧ config.cache.lifetime.toNat < 2 ^ 63 then
    .ok config.toText
  else
    .error .unwritable

end Config

/-! ## Places of files -/

/-- A path below another; one that begins with a slash stands for itself. -/
def joinPath (base path : String) : String :=
  if path.startsWith "/" then path
  else if base.endsWith "/" then base ++ path
  else base ++ "/" ++ path

/-- A path in which a leading tilde stands for the home directory. -/
def expandHome (home : Option String) (path : String) : Except ConfigFault String :=
  let below (rest : Option String) : Except ConfigFault String :=
    match home with
    | none => .error .noHome
    | some home => .ok (rest.elim home (joinPath home))
  match path.toList with
  | ['~'] => below none
  | '~' :: '/' :: rest => below (some (String.ofList rest))
  | _ => .ok path

end Logbook
