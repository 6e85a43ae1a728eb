import ClusterConsole.Text.Blank
import ClusterConsole.Transport.Failure

/-!
# Choosing a transport

A process is sandboxed when the desktop host has set its marker to something that is not blank. It
then needs a bridge; any other process uses the network itself.
-/

namespace ClusterConsole.Transport

inductive Kind where
  | direct
  | bridge
  deriving DecidableEq, Repr

def Kind.name : Kind → String
  | .direct => "Direct"
  | .bridge => "Bridge"

def hostMarker : String := "KING_DESKTOP_HOST"

def isSandboxed (lookup : String → Option String) : Bool :=
  match lookup hostMarker with
  | some value => !Text.allBlank value
  | none => false

def Kind.ofSandboxed (sandboxed : Bool) : Kind := if sandboxed then .bridge else .direct

def select (sandboxed hasBridge : Bool) : Except Failure Kind :=
  match Kind.ofSandboxed sandboxed with
  | .direct => .ok .direct
  | .bridge => if hasBridge then .ok .bridge else .error .bridgeUnavailable

end ClusterConsole.Transport
