import Logbook.Number.Digits
import Logbook.Url.Address

/-!
# URLs

A URL has a scheme, an authority, a path, a query and a fragment. It is kept in the form in which
it is written, so that equal URLs have equal texts.
-/

set_option autoImplicit false

namespace Logbook

/-- Why a text is no URL. -/
inductive UrlFault where
  | emptyHost
  | badPort
  | badIpv4
  | badIpv6
  | badDomain
  | badCharacter
  | noBase
  | rootlessBase
deriving DecidableEq, Repr

namespace UrlFault

/-- The wording of a fault. -/
def message : UrlFault → String
  | emptyHost => "empty host"
  | badPort => "invalid port number"
  | badIpv4 => "invalid IPv4 address"
  | badIpv6 => "invalid IPv6 address"
  | badDomain => "invalid international domain name"
  | badCharacter => "invalid domain character"
  | noBase => "relative URL without a base"
  | rootlessBase => "relative URL with a cannot-be-a-base base"

end UrlFault

/-- A host. -/
inductive Host where
  | name (text : String)
  | v4 (address : Nat)
  | v6 (pieces : List Nat)
deriving DecidableEq, Repr

namespace Host

/-- The text of a host. -/
def text : Host → String
  | name text => text
  | v4 address => Ipv4.text address
  | v6 pieces => "[" ++ Ipv6.text pieces ++ "]"

/-- There is nothing in the place of the host. -/
def isEmpty (host : Host) : Bool := host == name ""

end Host

/-- The name and the password of a user, as they are written in a URL. -/
structure Credentials where
  user : String
  password : String
deriving DecidableEq, Repr

namespace Credentials

/-- No credentials. -/
def none : Credentials := ⟨"", ""⟩

/-- Credentials in front of a host. -/
def text (credentials : Credentials) : String :=
  if credentials.password ≠ "" then credentials.user ++ ":" ++ credentials.password ++ "@"
  else if credentials.user ≠ "" then credentials.user ++ "@"
  else ""

end Credentials

/-- A path: a list of segments, or a text that has no structure. -/
inductive UrlPath where
  | segments (segments : List String)
  | rootless (text : String)
deriving DecidableEq, Repr

namespace UrlPath

/-- The text of a path. -/
def text : UrlPath → String
  | segments parts => String.join (parts.map fun part => "/" ++ part)
  | rootless text => text

end UrlPath

/-- A URL. The port is the written one, and only where it is not that of the scheme. -/
structure Url where
  scheme : String
  credentials : Credentials
  host : Option Host
  port : Option Nat
  path : UrlPath
  query : Option String
  fragment : Option String
deriving DecidableEq, Repr

/-- The schemes whose URLs always have a host, with their ports. -/
def specialPorts : List (String × Nat) :=
  [("http", 80), ("https", 443), ("ws", 80), ("wss", 443), ("ftp", 21)]

namespace Url

/-- The port of a URL: the written one or that of the scheme. -/
def effectivePort? (url : Url) : Option Nat :=
  url.port.orElse fun _ => specialPorts.lookup url.scheme

/-- The host as text, where there is one. -/
def hostText? (url : Url) : Option String :=
  match url.host with
  | some host => if host.isEmpty then none else some host.text
  | none => none

/-- The host and what belongs to it. A path that begins with an empty segment is told from a host
by a dot. -/
def authorityText (url : Url) : String :=
  match url.host with
  | some host =>
    "//" ++ url.credentials.text ++ host.text ++
      match url.port with
      | some port => ":" ++ natText port
      | none => ""
  | none =>
    match url.path with
    | .segments ("" :: _ :: _) => "/."
    | _ => ""

/-- The text of a URL. -/
def text (url : Url) : String :=
  url.scheme ++ ":" ++ url.authorityText ++ url.path.text ++
    (match url.query with
      | some query => "?" ++ query
      | none => "") ++
    match url.fragment with
    | some fragment => "#" ++ fragment
    | none => ""

end Url

end Logbook
