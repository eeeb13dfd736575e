import Logbook.Backend.Wire
import Logbook.Command.Run
import Logbook.Json.Pretty
import Std.Async.DNS
import Std.Async.TCP
import Std.Async.Timer
import Std.Time.DateTime.Timestamp

/-!
# The program

Reads the words of the command line, files and the clock, exchanges messages with nodes, and writes
what comes of it. Everything else is decided in `Surroundings.run`.
-/

set_option autoImplicit false

namespace Logbook

namespace Program

open Std.Async Std.Net

/-! ## The network -/

/-- Reads what comes on a connection until its end. -/
partial def receive (client : TCP.Socket.Client) (bytes : ByteArray) : Async ByteArray := do
  match ← client.recv? 65536 with
  | some more => receive client (bytes ++ more)
  | none => return bytes

/-- The address of a host at a port. -/
def socketAddress (port : Nat) : IPAddr → SocketAddress
  | .v4 addr => .v4 ⟨addr, UInt16.ofNat port⟩
  | .v6 addr => .v6 ⟨addr, UInt16.ofNat port⟩

/-- The host of a URL without brackets. -/
def hostName (url : Url) : String :=
  String.ofList ((url.hostText?.getD "").toList.filter fun c => c != '[' && c != ']')

/-- Sends a call to its node and reads the reply. -/
def exchange (call : Call) : Async (Option Reply) := do
  let some port := call.url.effectivePort? | return none
  let addresses ← DNS.getAddrInfo (hostName call.url) (natText port)
  let some address := addresses[0]? | return none
  let client ← TCP.Socket.Client.mk
  client.connect (socketAddress port address)
  client.send call.message.toUTF8
  let bytes ← receive client .empty
  return Reply.ofBytes? bytes.toList

/-- Waits for a number of seconds. -/
def wait (seconds : UInt64) : Async (Option Reply) := do
  sleep ⟨1000 * seconds.toNat⟩
  return none

/-- The network: an exchange that fails or takes too long has no reply, and neither has one that
would have to be encrypted. -/
def network (timeout : UInt64) : Network IO := fun call => do
  if call.url.scheme != "http" then return none
  let attempt ← (Async.race (exchange call) (wait timeout)).block.toBaseIO
  match attempt with
  | .ok reply => return reply
  | .error _ => return none

/-! ## Files and the clock -/

/-- What is found at the place of a file. -/
def fileAt (path : String) : IO FileState := do
  match ← (IO.FS.readFile path).toBaseIO with
  | .ok contents => return .text contents
  | .error (.noFileOrDirectory ..) => return .absent
  | .error _ => return .unreadable

/-- What the program finds around it. -/
def surroundings : IO (Surroundings IO) := do
  let now ← Std.Time.Timestamp.now
  return {
    home := ← IO.getEnv "HOME"
    now := Int64.ofInt now.toMillisecondsSinceUnixEpoch.toInt
    fileAt
    network }

/-! ## Words -/

/-- What can be done. -/
def usage : String :=
  "Usage: sightline [--config FILE] [--dry-run] COMMAND\n\nCommands:\n" ++
    String.join (CommandName.names.map fun entry => "  " ++ entry.1 ++ "\n")

/-- Writes what is told about a fault. -/
def report : CommandFault → IO Unit
  | .usage .helpWanted => IO.print usage
  | .usage .versionWanted => IO.println "sightline 0.3.2"
  | .usage fault => do
    IO.eprintln ("error: " ++ fault.message)
    IO.eprint usage
  | fault => IO.eprintln ("Error: " ++ fault.message)

/-- The words of the command line, with the configuration that the environment names in front of
them where they name none. -/
def words (args : List String) : IO (List String) := do
  match CommandLine.ofWords args, ← IO.getEnv "SIGHTLINE_CONFIG" with
  | .ok { config := none, .. }, some path => return "--config" :: path :: args
  | _, _ => return args

/-- Runs the program and gives what it ends with. -/
def run (args : List String) : IO UInt32 := do
  match ← (← surroundings).run (← words args) with
  | .ok output => do
    IO.println output.pretty
    return 0
  | .error halt => do
    match halt with
    | .fault fault => report fault
    | .overflow overflow => IO.eprintln overflow.message
    return UInt32.ofNat halt.exitCode

end Program

end Logbook

/-- The program. -/
def main (args : List String) : IO UInt32 := Logbook.Program.run args
