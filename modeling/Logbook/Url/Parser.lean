import Logbook.Url.Basic
import Logbook.Url.Domain
import Logbook.Url.Percent

/-!
# Reading URLs

A text is read as a URL by itself, or as a reference relative to another URL. Blanks and controls
at its ends, and tabs and line breaks anywhere, mean nothing. In URLs of the special schemes a
backslash is as good as a slash.
-/

set_option autoImplicit false

namespace Logbook

namespace Host

/-- The address between brackets. -/
def ofBrackets (cs : List Char) : Except UrlFault Host :=
  match (beforeEnd? [']'] cs).bind Ipv6.ofChars? with
  | some pieces => .ok (v6 pieces)
  | none => .error .badIpv6

/-- The host of a URL of a special scheme. -/
def ofSpecial : List Char → Except UrlFault Host
  | '[' :: cs => ofBrackets cs
  | cs =>
    match (Percent.decode? cs).bind Domain.ofText? with
    | none => .error .badDomain
    | some domain =>
      if domain = "" then .error .emptyHost
      else if Ipv4.isMeant domain.toList then
        match Ipv4.ofChars? domain.toList with
        | some address => .ok (v4 address)
        | none => .error .badIpv4
      else .ok (name domain)

/-- Characters that no host holds. -/
def isForbidden (c : Char) : Bool :=
  c.toNat == 0 || [' ', '#', '/', ':', '<', '>', '?', '@', '[', '\x5c', ']', '^', '|'].contains c

/-- The host of a URL of any other scheme. -/
def ofOther : List Char → Except UrlFault Host
  | '[' :: cs => ofBrackets cs
  | cs =>
    if cs.any isForbidden then .error .badCharacter
    else .ok (name (Percent.encode Percent.isControl cs))

end Host

namespace Url

/-- What kind of scheme a URL has. -/
inductive SchemeKind where
  | special
  | file
  | other
deriving DecidableEq, Repr

/-- The kind of a scheme. -/
def kindOf (scheme : String) : SchemeKind :=
  if scheme = "file" then .file
  else if (specialPorts.lookup scheme).isSome then .special
  else .other

/-- The characters of a text that mean something in a URL. -/
def significant (text : String) : List Char :=
  let trimmed := ((text.toList.dropWhile (· ≤ ' ')).reverse.dropWhile (· ≤ ' ')).reverse
  trimmed.filter fun c => c != '\t' && c != '\n' && c != '\r'

/-- The scheme in front of a colon, in lower case, and what follows the colon. -/
def scheme? (cs : List Char) : Option (String × List Char) :=
  match cs, splitAt? (· == ':') cs with
  | c :: _, some (scheme, rest) =>
    if c.isAlpha ∧ scheme.all fun c => c.isAlphanum || ['+', '-', '.'].contains c then
      some (String.ofList (scheme.map Char.toLower), rest)
    else
      none
  | _, _ => none

/-- The character ends a segment of a path. -/
def isSlash (kind : SchemeKind) (c : Char) : Bool := c == '/' || kind != .other && c == '\x5c'

/-- The character ends an authority. -/
def endsAuthority (kind : SchemeKind) (c : Char) : Bool :=
  isSlash kind c || c == '?' || c == '#'

/-! ## Authorities -/

/-- A URL of which nothing is known but the scheme. -/
def ofScheme (scheme : String) : Url :=
  ⟨scheme, .none, none, none, .segments [], none, none⟩

/-- The part behind the last at sign, and the part before it. -/
def splitCredentials (cs : List Char) : Option (List Char) × List Char :=
  let host := (cs.reverse.takeWhile (· != '@')).reverse
  if host.length = cs.length then (none, cs)
  else (some (cs.take (cs.length - host.length - 1)), host)

/-- The credentials before the at sign. -/
def credentialsOf (cs : List Char) : Credentials :=
  let write (part : List Char) : String := Percent.encode Percent.inCredentials part
  match splitAt? (· == ':') cs with
  | none => ⟨write cs, ""⟩
  | some (user, password) => ⟨write user, write password⟩

/-- The host and, behind a colon that is not between brackets, the port. -/
def splitPort (inside : Bool) : List Char → List Char × Option (List Char)
  | [] => ([], none)
  | c :: cs =>
    if c = ':' ∧ inside = false then ([], some cs)
    else
      let inside := if c = '[' then true else if c = ']' then false else inside
      let (host, port) := splitPort inside cs
      (c :: host, port)

/-- The port that digits write, none where there are no digits, and what follows the port. A
backslash ends a port in any URL. -/
def portOf (cs : List Char) : Except UrlFault (Option Nat × List Char) :=
  let (digits, rest) := spanDigits cs
  if 65535 < digitsValue digits ∨ rest.head?.any (· != '\x5c') then .error .badPort
  else .ok (if digits.isEmpty then none else some (digitsValue digits), rest)

/-- A URL of a scheme with the credentials, the host and the port of an authority, and what follows
them. `more` tells whether anything follows the authority. -/
def authority (scheme : String) (more : Bool) (cs : List Char) :
    Except UrlFault (Url × List Char) := do
  let special := kindOf scheme == .special
  let (userinfo, rest) := splitCredentials cs
  if userinfo == some [] && rest.isEmpty && more then
    throw .emptyHost
  let credentials := credentialsOf (userinfo.getD [])
  let (hostChars, portChars) := splitPort false rest
  if special && hostChars.isEmpty then
    throw .emptyHost
  let host ← if special then Host.ofSpecial hostChars else Host.ofOther hostChars
  if host.isEmpty && (portChars.isSome || credentials != .none) then
    throw .emptyHost
  let (port, rest) ← portOf (portChars.getD [])
  let port := if port = specialPorts.lookup scheme then none else port
  return ({ ofScheme scheme with credentials, host := some host, port }, rest)

/-! ## Paths -/

/-- A segment that means the one above. -/
def isDoubleDot (cs : List Char) : Bool :=
  ["..", ".%2e", "%2e.", "%2e%2e"].contains (String.ofList (cs.map Char.toLower))

/-- A segment that means the same place. -/
def isSingleDot (cs : List Char) : Bool :=
  [".", "%2e"].contains (String.ofList (cs.map Char.toLower))

/-- The characters begin with a drive: a letter and a colon or a bar, behind which nothing stands
but what a backslash cuts off. -/
def beginsWithDrive : List Char → Bool
  | letter :: sign :: rest =>
    letter.isAlpha && (sign == ':' || sign == '|') && rest.head?.all (· == '\x5c')
  | _ => false

/-- The characters are a drive and nothing else. -/
def isDrive (cs : List Char) : Bool := beginsWithDrive cs && cs.length == 2

/-- The segments above the last one. There is nothing above a drive. -/
def parent (segments : List String) : List String :=
  if segments.getLast?.any fun segment => beginsWithDrive segment.toList then segments
  else segments.dropLast

/-- A segment as it is written below others. A drive at the beginning of the path of a file is
written with a colon. -/
def segmentText (kind : SchemeKind) (above : List String) (segment : List Char) : String :=
  if kind = .file ∧ above = [] ∧ isDrive segment then String.ofList (segment.take 1 ++ [':'])
  else Percent.encode Percent.inPath segment

/-- Segments below others: dots are followed, and where the last one is dots the path ends in a
slash. -/
def appendSegments (kind : SchemeKind) (above : List String) : List (List Char) → List String
  | [] => above
  | segment :: rest =>
    let ending := if rest.isEmpty then [""] else []
    let above :=
      if isDoubleDot segment then parent above ++ ending
      else if isSingleDot segment then above ++ ending
      else above ++ [segmentText kind above segment]
    appendSegments kind above rest

/-- The query and the fragment at the end of a URL. -/
def tail (special : Bool) (cs : List Char) : Option String × Option String :=
  let query := match cs with
    | '?' :: rest =>
      some (Percent.encode (Percent.inQuery special) (rest.takeWhile (· != '#')))
    | _ => none
  let fragment := match cs.dropWhile (· != '#') with
    | _ :: rest => some (Percent.encode Percent.inFragment rest)
    | [] => none
  (query, fragment)

/-- The character ends a path. -/
def endsPath (c : Char) : Bool := c == '?' || c == '#'

/-- The segments of the path that `cs` begins with, below some segments. -/
def segmentsOf (kind : SchemeKind) (above : List String) (cs : List Char) : List String :=
  appendSegments kind above (splitBy (isSlash kind) (cs.takeWhile fun c => !endsPath c))

/-- The path of a file begins with a segment that is not empty, if there is one. -/
def withoutBlankStart (segments : List String) : List String :=
  match segments.dropWhile (· == "") with
  | [] => [""]
  | segments => segments

/-- A URL with the path that `cs` begins with, below some segments, and all that follows. -/
def withPath (url : Url) (above : List String) (cs : List Char) : Url :=
  let kind := kindOf url.scheme
  let segments := segmentsOf kind above cs
  let (query, fragment) := tail (kind != .other) (cs.dropWhile fun c => !endsPath c)
  { url with
    path := .segments (if kind = .file then withoutBlankStart segments else segments)
    query
    fragment }

/-- What follows the slash at the root of a path. -/
def belowRoot (kind : SchemeKind) (cs : List Char) : List Char :=
  match cs with
  | c :: rest => if isSlash kind c then rest else cs
  | [] => []

/-- A URL with the path behind its authority. A URL of a special scheme has a path in any case. -/
def withRootedPath (url : Url) (cs : List Char) : Url :=
  let kind := kindOf url.scheme
  if kind = .other ∧ cs.head?.all endsPath then
    let (query, fragment) := tail false cs
    { url with path := .segments [], query, fragment }
  else url.withPath [] (belowRoot kind cs)

/-! ## Whole URLs -/

/-- The URL whose authority and path follow two slashes. -/
def ofAuthority (scheme : String) (cs : List Char) : Except UrlFault Url := do
  let kind := kindOf scheme
  let text := cs.takeWhile fun c => !endsAuthority kind c
  let rest := cs.dropWhile fun c => !endsAuthority kind c
  let (url, left) ← authority scheme (!rest.isEmpty) text
  return url.withRootedPath (left ++ rest)

/-- The URL of a file in which neither a host nor a path is given. -/
def noFile : Url := { ofScheme "file" with host := some (.name "") }

/-- The URL of a file whose host and path follow two slashes. A drive in the place of the host
begins the path, and a host in front of a drive means nothing. A path without a host before it
begins with an empty segment, so that it has no drive. -/
def ofFileHost (cs : List Char) : Except UrlFault Url := do
  let text := cs.takeWhile fun c => !endsAuthority .file c
  let rest := cs.dropWhile fun c => !endsAuthority .file c
  if isDrive text then
    return noFile.withPath [] cs
  let host ← if text.isEmpty then pure (Host.name "") else Host.ofSpecial text
  if host = .name "" ∨ host = .name "localhost" then
    return noFile.withPath [] rest
  let below := belowRoot .file rest
  let host := if (segmentsOf .file [] below).head?.any (isDrive ·.toList) then .name "" else host
  return { noFile with host := some host }.withPath [] below

/-- The URL of a file, behind its scheme. -/
def ofFile (cs : List Char) : Except UrlFault Url :=
  match cs with
  | a :: b :: rest =>
    if isSlash .file a && isSlash .file b then ofFileHost rest
    else .ok (noFile.withPath [] (belowRoot .file cs))
  | cs => .ok (noFile.withPath [] (belowRoot .file cs))

/-- The URL of a scheme that is not special, behind the scheme. -/
def ofOther (scheme : String) (cs : List Char) : Except UrlFault Url :=
  match cs with
  | '/' :: '/' :: rest => ofAuthority scheme rest
  | '/' :: rest => .ok ((ofScheme scheme).withPath [] rest)
  | cs =>
    let (query, fragment) := tail false (cs.dropWhile fun c => !endsPath c)
    .ok { ofScheme scheme with
      path := .rootless (Percent.encode Percent.isControl (cs.takeWhile fun c => !endsPath c))
      query
      fragment }

/-- The URL that a text with a scheme writes. -/
def ofRest (scheme : String) (cs : List Char) : Except UrlFault Url :=
  match kindOf scheme with
  | .special => ofAuthority scheme (cs.dropWhile (isSlash .special))
  | .file => ofFile cs
  | .other => ofOther scheme cs

/-- The URL that a text writes. -/
def ofText (text : String) : Except UrlFault Url :=
  match scheme? (significant text) with
  | some (scheme, rest) => ofRest scheme rest
  | none => .error .noBase

/-! ## References -/

/-- The URL that a reference without a scheme means relative to a base whose path is a list of
segments. -/
def resolve (base : Url) (above : List String) (cs : List Char) : Except UrlFault Url :=
  let kind := kindOf base.scheme
  match cs with
  | [] => .ok { base with fragment := none }
  | '?' :: _ =>
    let (query, fragment) := tail (kind != .other) cs
    .ok { base with query, fragment }
  | '#' :: _ => .ok { base with fragment := (tail false cs).2 }
  | a :: rest =>
    if isSlash kind a then
      if rest.head?.any (isSlash kind) then
        match kind with
        | .special => ofAuthority base.scheme (cs.dropWhile (isSlash kind))
        | .file => ofFile cs
        | .other => ofAuthority base.scheme (cs.drop 2)
      else .ok (base.withPath [] rest)
    else
      .ok (base.withPath above.dropLast cs)

/-- A reference with a scheme is relative to a base of the same scheme, unless it has an
authority. -/
def isRelative (base : Url) (scheme : String) (cs : List Char) : Bool :=
  scheme == base.scheme &&
    match kindOf scheme with
    | .special => (cs.takeWhile (isSlash .special)).length < 2
    | .file => true
    | .other => false

/-- The URL that a reference means relative to a base. -/
def join (base : Url) (reference : String) : Except UrlFault Url :=
  let cs := significant reference
  match scheme? cs, base.path with
  | some (scheme, rest), .segments above =>
    if base.isRelative scheme rest then resolve base above rest else ofRest scheme rest
  | some (scheme, rest), .rootless _ => ofRest scheme rest
  | none, .segments above => resolve base above cs
  | none, .rootless _ =>
    if cs.head? = some '#' then .ok { base with fragment := (tail false cs).2 }
    else .error .rootlessBase

end Url

end Logbook
