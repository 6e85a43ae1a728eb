/-! Why a transport has no response, or none that can be used. -/

namespace ClusterConsole.Transport

inductive Failure where
  | network (url message : String)
  | bridge (message : String)
  | bridgeUnavailable
  | unsupportedMethod (name : String)
  | notJson (message : String)
  deriving DecidableEq, Repr

def Failure.message : Failure → String
  | .network url message => "request failed: " ++ message ++ " (url: " ++ url ++ ")"
  | .bridge message => "host bridge call failed: " ++ message
  | .bridgeUnavailable => "running inside the desktop host but no bridge is available"
  | .unsupportedMethod name => "unsupported method: " ++ name
  | .notJson message => "invalid JSON body: " ++ message

end ClusterConsole.Transport
