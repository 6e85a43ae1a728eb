import ClusterConsole.Console.Program
import ClusterConsole.Network.Wire
import Std.Async.DNS
import Std.Async.TCP
import Std.Async.Timer

/-! The command line. It reads the environment and the settings files, makes the requests over TCP
and prints. -/

namespace ClusterConsole.Main

open Console (Complaint Invocation)
open Network (Arrival Delivery Outgoing Plan)
open Std.Async

def variableNames : List String :=
  [Settings.urlVariable, Settings.rootVariable, Settings.homeVariable, Transport.hostMarker]

def environment : IO (String → Option String) := do
  let values ← variableNames.mapM fun name => return (name, ← IO.getEnv name)
  return fun name => (values.lookup name).join

def contentOf (path : String) : IO (Option (List UInt8)) := do
  try
    let bytes ← IO.FS.readBinFile path
    return some bytes.toList
  catch _ => return none

def addresses (host : Url.Host) : Async (List Std.Net.IPAddr) :=
  match host with
  | .ipv4 n =>
    return [.v4 (.ofParts (n >>> 24).toUInt8 (n >>> 16).toUInt8 (n >>> 8).toUInt8 n.toUInt8)]
  | .ipv6 [a, b, c, d, e, f, g, h] =>
    return [.v6 (.ofParts a.toUInt16 b.toUInt16 c.toUInt16 d.toUInt16 e.toUInt16 f.toUInt16
      g.toUInt16 h.toUInt16)]
  | .ipv6 _ => return []
  | .name chars => return (← DNS.getAddrInfo (String.ofList chars) "").toList

def socketAddress (port : Nat) : Std.Net.IPAddr → Std.Net.SocketAddress
  | .v4 a => .v4 ⟨a, port.toUInt16⟩
  | .v6 a => .v6 ⟨a, port.toUInt16⟩

def connect (port : Nat) : List Std.Net.IPAddr → Async (Option TCP.Socket.Client)
  | [] => return none
  | a :: more => do
    try
      let client ← TCP.Socket.Client.mk
      client.connect (socketAddress port a)
      return some client
    catch _ => connect port more

/-- How many milliseconds are left, if there is a limit; none inside if it has passed. -/
def timeLeft (deadline : Option Nat) : IO (Option (Option Nat)) := do
  match deadline with
  | none => return some none
  | some d =>
    let now ← IO.monoMsNow
    return if d ≤ now then none else some (some (d - now))

def receive (client : TCP.Socket.Client) (left : Option Nat) :
    Async (Option (Option ByteArray)) := do
  match left with
  | none => return some (← client.recv? 65536)
  | some ms =>
    let late ← Selector.sleep (.ofNat ms)
    Selectable.one #[
      .case (client.recvSelector 65536) (fun bytes => return some bytes),
      .case late (fun _ => return none)]

partial def receiveAll (client : TCP.Socket.Client) (deadline : Option Nat) (got : ByteArray) :
    IO (Option ByteArray) := do
  match ← timeLeft deadline with
  | none => return none
  | some left =>
    let next ← try (receive client left).block catch _ => pure (some none)
    match next with
    | none => return none
    | some none => return some got
    | some (some bytes) => receiveAll client deadline (got ++ bytes)

/-- What becomes of a request at its server; none when time is up. Only plain HTTP is spoken, and an
answer that redirects is taken as it stands and not followed. -/
def deliver (deadline : Option Nat) (out : Outgoing) : IO (Option Delivery) := do
  if out.secure then return some .refused
  let client? ← try (do connect out.port (← addresses out.host) : Async _).block
    catch _ => pure none
  match client? with
  | none => return some .refused
  | some client =>
    let sent ← try
      (client.send ⟨out.bytes.toArray⟩).block
      pure true
    catch _ => pure false
    if !sent then return some .dropped
    match ← receiveAll client deadline .empty with
    | none => return none
    | some bytes =>
      match Arrival.ofBytes? bytes.toList with
      | some a => return some (.answered a)
      | none => return some .dropped

def runPlan {α : Type} (deadline : Option Nat) : Plan α → IO (Option α)
  | .done a => return some a
  | .attempt r next => do
    match Network.prepare r with
    | .error f => runPlan deadline (next (.error f))
    | .ok out =>
      match ← deliver deadline out with
      | none => return none
      | some d => runPlan deadline (next (d.arrival out.url))
  | .wait ms next => do
    match ← timeLeft deadline with
    | none => return none
    | some left =>
      IO.sleep (min ms (left.getD ms)).toUInt32
      runPlan deadline next

def runTask {α : Type} (plan : Http.Request → Plan (Except Transport.Failure Http.Response))
    (limit : Option Nat) : Console.Task α → IO (Except Complaint α)
  | .done a => return .ok a
  | .fail c => return .error c
  | .print text next => do
    (← IO.getStdout).putStr text
    runTask plan limit next
  | .ask r next => do
    let now ← IO.monoMsNow
    let answer ← runPlan (limit.map fun s => now + 1000 * s) (plan r)
    let reply := match answer with
      | some a => Backend.Reply.of a
      | none => .timeout (1000 * limit.getD 0)
    runTask plan limit (next reply)

def usage : String :=
  "usage: king-console [--conf DIR] [--backend-url URL] [-v] COMMAND\n" ++
  "commands: connections, connection ID, test-connection, classes, properties, objects\n"

def run (args : List String) : IO UInt32 := do
  match Invocation.parse? args with
  | none =>
    (← IO.getStderr).putStr usage
    return Console.usageCode.toUInt32
  | some i =>
    let lookup ← environment
    let location := Settings.Location.of (← IO.currentDir).toString lookup i.home
    let settings := Settings.ofFiles (← contentOf location.system) (← contentOf location.user)
    let result ← runTask (Console.exchange settings lookup) settings.timeLimit
      (i.task settings lookup)
    let output ← IO.getStdout
    output.putStr (Console.endText result)
    output.flush
    return (Console.exitCode result).toUInt32

end ClusterConsole.Main

def main (args : List String) : IO UInt32 := ClusterConsole.Main.run args
