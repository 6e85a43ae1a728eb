import ClusterConsole.Http.Status
import ClusterConsole.Network.Outgoing

/-!
# Arrivals

What comes back over the network is bytes. A header counts if its value is visible ASCII, the reason
phrase is that of the status whatever the server wrote, and the body is read as UTF-8.
-/

namespace ClusterConsole.Network

structure Arrival where
  status : UInt16
  /-- Names in lowercase, in the order of arrival. -/
  headers : List (String × List UInt8)
  body : List UInt8
  whole : Bool
  deriving DecidableEq, Repr

inductive Delivery where
  /-- Nobody took it. -/
  | refused
  | dropped
  | answered (a : Arrival)
  deriving DecidableEq, Repr

def Delivery.taken : Delivery → Bool
  | .refused => false
  | .dropped => true
  | .answered _ => true

def Delivery.arrival (url : String) : Delivery → Except Fault Arrival
  | .answered a => .ok a
  | .refused => .error (.unanswered url)
  | .dropped => .error (.unanswered url)

def isVisible (b : UInt8) : Bool := b == 0x09 || (0x20 ≤ b && b < 0x7F)

def visible? (bytes : List UInt8) : Option String :=
  if bytes.all isVisible then some (String.ofList (Text.utf8Lossy bytes)) else none

namespace Arrival

def visibleHeaders (a : Arrival) : List (String × String) :=
  a.headers.filterMap fun h => (visible? h.2).map fun v => (h.1, v)

def text (a : Arrival) : Except Fault String :=
  if a.whole then .ok (String.ofList (Text.utf8Lossy a.body)) else .error .brokenOff

end Arrival

end ClusterConsole.Network
