import ClusterConsole.Network.Plan
import ClusterConsole.Transport.Bridge
import ClusterConsole.Transport.Selection

/-!
# Exchanges

How the transports spend attempts on a request. The direct one makes a single attempt. The host's
own end of the bridge repeats a failed attempt after a pause, since the backend may still be about
to start; an answer of any status ends it, and so does a body that breaks off.
-/

namespace ClusterConsole.Transport

open Http (Method Request Response)
open Network (Arrival Fault Plan)

def responseOf (a : Arrival) (body : String) : Response :=
  .make a.status (Http.reasonOf a.status) a.visibleHeaders body

def directResult (url : String) : Except Fault Arrival → Except Failure Response
  | .error f => .error (.network url f.message)
  | .ok a =>
    match a.text with
    | .ok body => .ok (responseOf a body)
    | .error f => .error (.network url ("failed to read response body: " ++ f.message))

def direct (r : Request) : Plan (Except Failure Response) :=
  .attempt r fun a => .done (directResult r.url a)

/-- How often an attempt is made, at least once, and how long the pauses are in milliseconds. -/
structure RetryPolicy where
  maxAttempts : UInt32
  backoff : Nat
  deriving DecidableEq, Repr

namespace RetryPolicy

def default : RetryPolicy := ⟨5, 500⟩

def retries (p : RetryPolicy) : Nat := p.maxAttempts.toNat - 1

end RetryPolicy

def retrying (r : Request) (backoff : Nat) : Nat → Plan (Except Fault Arrival)
  | 0 => .attempt r .done
  | retries + 1 => .attempt r fun
    | .ok a => .done (.ok a)
    | .error _ => .wait backoff (retrying r backoff retries)

def hostResult (url : String) : Except Fault Arrival → Except String BridgeResponse
  | .error f => .error ("Request failed: " ++ f.message ++ " (url: " ++ url ++ ")")
  | .ok a =>
    match a.text with
    | .ok body => .ok ⟨a.status, Http.reasonOf a.status, .ofList a.visibleHeaders, body⟩
    | .error f => .error ("Failed to read response body: " ++ f.message)

namespace BridgeRequest

def toRequest? (b : BridgeRequest) : Option Request :=
  (Method.ofName? b.method).map fun m => ⟨b.url, m, b.headers.getD .empty, b.body⟩

end BridgeRequest

def hostExchange (policy : RetryPolicy) (b : BridgeRequest) :
    Plan (Except String BridgeResponse) :=
  match b.toRequest? with
  | none => .done (.error ("Unsupported method: " ++ b.method))
  | some r => (retrying r policy.backoff policy.retries).map (hostResult b.url)

def bridged (policy : RetryPolicy) (r : Request) : Plan (Except Failure Response) :=
  (hostExchange policy (.ofRequest r)).map overBridge

def Kind.execute (policy : RetryPolicy) : Kind → Request → Plan (Except Failure Response)
  | .direct => Transport.direct
  | .bridge => bridged policy

end ClusterConsole.Transport
