import ClusterConsole.Backend.Failure
import ClusterConsole.Http.Message
import ClusterConsole.Text.Blank

/-!
# The envelope of answers

Most answers are an object that reports success and carries its result under `data`. A rejection
has the answer's own message if it has one, and otherwise names the status.
-/

namespace ClusterConsole.Backend

open Http (Response)
open Json (Value)

def statusMessage (status : UInt16) : String := "HTTP " ++ toString status.toNat

def messageOf? (body : Value) : Option String :=
  (((body.field? "message").bind (·.string?)).map Text.trim).filter (· ≠ "")

def rejection (status : UInt16) (body : Value) : Failure :=
  .rejected status ((messageOf? body).getD (statusMessage status))

def reportsSuccess (body : Value) : Bool :=
  match body.field? "success" with
  | some (.bool b) => b
  | _ => false

def openEnvelope (r : Response) : Except Failure Value :=
  match r.json with
  | .error e =>
    if r.isSuccess then .error (.transport e)
    else .error (.rejected r.status (statusMessage r.status))
  | .ok body =>
    if r.isSuccess && reportsSuccess body then .ok body else .error (rejection r.status body)

def plainBody (r : Response) : Except Failure Value :=
  if r.isSuccess then r.json.mapError .transport
  else match r.json with
    | .ok body => .error (rejection r.status body)
    | .error _ => .error (.rejected r.status (statusMessage r.status))

inductive Reply where
  | response (r : Response)
  | failure (f : Transport.Failure)
  /-- Nothing came within the time allowed. -/
  | timeout (millis : Nat)
  deriving DecidableEq, Repr

def Reply.of : Except Transport.Failure Response → Reply
  | .ok r => .response r
  | .error f => .failure f

def Reply.response? : Reply → Except Failure Response
  | .response r => .ok r
  | .failure f => .error (.transport f)
  | .timeout ms => .error (.timeout ms)

end ClusterConsole.Backend
