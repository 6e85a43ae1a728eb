import ClusterConsole.Transport.Failure

/-!
# Why a call of the backend has no result

Neither an empty list nor a payload of no known shape is a failure.
-/

namespace ClusterConsole.Backend

inductive Failure where
  | noTarget
  | transport (failure : Transport.Failure)
  /-- A status outside 2xx, or an answer that does not report success. -/
  | rejected (status : UInt16) (message : String)
  | timeout (millis : Nat)
  | invalidUrl (reason : String)
  deriving DecidableEq, Repr

def Failure.message : Failure → String
  | .noTarget => "no connection or class selected"
  | .transport f => f.message
  | .rejected _ message => message
  | .timeout ms => "request timed out after " ++ toString ms ++ " ms"
  | .invalidUrl reason => "invalid backend url: " ++ reason

end ClusterConsole.Backend
