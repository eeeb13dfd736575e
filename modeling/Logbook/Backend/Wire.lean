import Logbook.Backend.Node
import Logbook.Json.Printer

/-!
# Calls and replies on the wire

A call is written, and a reply is read, as a message of HTTP/1.1. The connection ends with the
reply, so that a body whose length is not given goes on to the end.
-/

set_option autoImplicit false

namespace Logbook

/-! ## Calls -/

namespace Call

/-- The host of a call, with the port where it is written. -/
def hostText (call : Call) : String :=
  call.url.hostText?.getD "" ++ (call.url.port.map fun port => ":" ++ natText port).getD ""

/-- The path and the query of a call. -/
def target (call : Call) : String :=
  call.url.path.text ++ (call.url.query.map fun query => "?" ++ query).getD ""

/-- The line of a header. -/
def headerLine (name value : String) : String := name ++ ": " ++ value ++ "\r\n"

/-- A call as a message. -/
def message (call : Call) : String :=
  let body := (call.body.map Json.print).getD ""
  call.method.name ++ " " ++ call.target ++ " HTTP/1.1\r\n" ++ headerLine "Host" call.hostText ++
    headerLine "Accept" "*/*" ++ headerLine "Connection" "close" ++
    ((call.authorization.map (headerLine "Authorization")).getD "") ++
    (if call.body.isSome then
        headerLine "Content-Type" "application/json" ++
          headerLine "Content-Length" (natText body.utf8ByteSize)
      else "") ++
    "\r\n" ++ body

end Call

/-! ## Replies -/

namespace Reply

/-- The first line of a message and what follows it. -/
def splitLine? : List UInt8 → Option (List UInt8 × List UInt8)
  | [] => none
  | 13 :: 10 :: rest => some ([], rest)
  | b :: rest => (splitLine? rest).map fun (line, rest) => (b :: line, rest)

/-- The characters of a line. -/
def lineChars (line : List UInt8) : List Char := line.map fun b => Char.ofNat b.toNat

/-- The status in the first line of a message. -/
def statusOf? (line : List UInt8) : Option Nat :=
  match splitAt? (· == ' ') (lineChars line) with
  | some (_, rest) => natOfDigits? (rest.takeWhile (· != ' '))
  | none => none

/-- The name of a header in small letters, and its value. -/
def headerOf? (line : List UInt8) : Option (String × String) :=
  (splitAt? (· == ':') (lineChars line)).map fun (name, value) =>
    (String.ofList (name.map Char.toLower), trim (String.ofList value))

/-- The headers of a message, which end with an empty line, and its body. -/
def splitHeaders? : Nat → List UInt8 → Option (List (String × String) × List UInt8)
  | 0, _ => none
  | fuel + 1, bytes =>
    match splitLine? bytes with
    | none => none
    | some ([], body) => some ([], body)
    | some (line, rest) =>
      (splitHeaders? fuel rest).map fun (headers, body) =>
        ((headerOf? line).toList ++ headers, body)

/-- The number that digits of base sixteen write. -/
def hexValue? (cs : List Char) : Option Nat :=
  if cs.isEmpty then none
  else cs.foldlM (fun value c => (hexDigitValue? c).map (16 * value + ·)) 0

/-- The body that is sent in chunks, each behind a line with its length. -/
def ofChunks? : Nat → List UInt8 → Option (List UInt8)
  | 0, _ => none
  | fuel + 1, bytes =>
    (splitLine? bytes).bind fun (line, rest) =>
      (hexValue? ((lineChars line).takeWhile (fun c => c != ';' && c != ' '))).bind fun size =>
        if size = 0 then some []
        else if rest.length < size then none
        else (ofChunks? fuel (rest.drop (size + 2))).map (rest.take size ++ ·)

/-- The body of a message with the given headers. -/
def body? (headers : List (String × String)) (bytes : List UInt8) : Option (List UInt8) :=
  if headers.lookup "transfer-encoding" = some "chunked" then ofChunks? bytes.length bytes
  else
    match (headers.lookup "content-length").bind fun length => natOfDigits? length.toList with
    | some length => some (bytes.take length)
    | none => some bytes

/-- The reply in a message. -/
def ofBytes? (bytes : List UInt8) : Option Reply := do
  let (line, rest) ← splitLine? bytes
  let status ← statusOf? line
  let (headers, body) ← splitHeaders? rest.length rest
  let body ← body? headers body
  return ⟨status, ← String.fromUTF8? (ByteArray.mk body.toArray)⟩

end Reply

end Logbook
