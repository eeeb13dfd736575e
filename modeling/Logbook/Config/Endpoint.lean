import Logbook.Text.Blank
import Logbook.Text.Lowercase
import Logbook.Url.Parser

/-!
# Endpoints

An endpoint is where a node is reached: a URL, or just a host with an optional port. A host alone is
reached by `http`, at port 9200 unless another one is given. White space around an endpoint means
nothing.
-/

set_option autoImplicit false

namespace Logbook

/-- Why a configuration cannot be used. -/
inductive ConfigFault where
  | badOffset (text : String)
  | blankLabel
  | noEndpoint
  | badEndpoint (text : String) (cause : Option UrlFault)
  | badPort (text : String)
  | missingHost (text : String)
  | noHome
deriving DecidableEq, Repr

namespace ConfigFault

/-- The wording of a fault. -/
def message (fault : ConfigFault) : String :=
  "Config error: " ++
    match fault with
    | badOffset text => "invalid time zone offset '" ++ text ++ "'"
    | blankLabel => "index prefix must not be empty"
    | noEndpoint => "no backend endpoint configured"
    | badEndpoint text none => "invalid endpoint '" ++ text ++ "'"
    | badEndpoint text (some cause) => "invalid endpoint '" ++ text ++ "': " ++ cause.message
    | badPort text => "invalid port in endpoint '" ++ text ++ "'"
    | missingHost text => "missing host in endpoint '" ++ text ++ "'"
    | noHome => "Cannot determine home directory"

end ConfigFault

namespace Endpoint

/-- The port of an endpoint that gives none. -/
def defaultPort : Nat := 9200

/-- The text says that it is a URL. -/
def hasScheme (cs : List Char) : Bool :=
  match cs with
  | [] => false
  | c :: rest => [':', '/', '/'].isPrefixOf (c :: rest) || hasScheme rest

/-- A host between brackets, with the brackets, and what follows it. -/
def splitBrackets? : List Char → Option (List Char × List Char)
  | '[' :: cs => (splitAt? (· == ']') cs).map fun parts => ('[' :: parts.1 ++ [']'], parts.2)
  | _ => none

/-- What stands before and behind the last colon. -/
def splitLastColon? (cs : List Char) : Option (List Char × List Char) :=
  (splitAt? (· == ':') cs.reverse).map fun parts => (parts.2.reverse, parts.1.reverse)

/-- The host of an endpoint and the text of its port. Behind brackets nothing but a port may
stand. -/
def splitPort? (cs : List Char) : Option (List Char × Option (List Char)) :=
  match splitBrackets? cs with
  | some (host, []) => some (host, none)
  | some (host, ':' :: port) => some (host, some port)
  | some _ => none
  | none =>
    match splitLastColon? cs with
    | some (host, port) => some (host, some port)
    | none => some (cs, none)

/-- The port that a text writes. -/
def portOf? (cs : List Char) : Option Nat := (natOfChars? cs).filter (· ≤ 65535)

/-- The URL of a host and a port. -/
def urlOf (text : String) (host : List Char) (port : Nat) : Except ConfigFault Url :=
  let host := lowercase (String.ofList host)
  match Url.ofText ("http://" ++ host ++ ":" ++ natText port) with
  | .ok url => .ok url
  | .error cause => .error (.badEndpoint text (some cause))

/-- The URL of an endpoint without a scheme. -/
def bareUrl (text : String) : Except ConfigFault Url :=
  match splitPort? text.toList with
  | none => .error (.badEndpoint text none)
  | some (host, port) =>
    match port.elim (some defaultPort) portOf? with
    | none => .error (.badPort text)
    | some port => if host.isEmpty then .error (.missingHost text) else urlOf text host port

/-- The URL of an endpoint. -/
def url (text : String) : Except ConfigFault Url :=
  let text := trim text
  if hasScheme text.toList then
    match Url.ofText text with
    | .ok url => .ok url
    | .error cause => .error (.badEndpoint text (some cause))
  else
    bareUrl text

/-- The URLs of endpoints, of which there must be at least one; the first that is none is
reported. -/
def urls (endpoints : List String) : Except ConfigFault (List Url) :=
  if endpoints.isEmpty then .error .noEndpoint else endpoints.mapM url

end Endpoint

end Logbook
