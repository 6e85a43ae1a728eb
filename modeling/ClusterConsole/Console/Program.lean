import ClusterConsole.Console.Command
import ClusterConsole.Settings.Reader
import ClusterConsole.Settings.Location

/-!
# The program

An invocation with the settings that are in force. A complaint is printed as a document of its own
on one line, after everything else.
-/

namespace ClusterConsole.Console

open Backend (Endpoints Reply)
open Http (Request)
open Network (Delivery Outgoing Plan)

def Invocation.task (settings : Settings) (lookup : String → Option String) (i : Invocation) :
    Task Unit :=
  match Endpoints.of (i.backendUrl.getD (settings.backendUrl lookup)) with
  | .error failure => .fail (.backend failure)
  | .ok endpoints => i.command.task (Engine.Config.make endpoints settings.engineOptions)

def exchange (settings : Settings) (lookup : String → Option String) (r : Request) :
    Plan (Except Transport.Failure Http.Response) :=
  (Transport.Kind.ofSandboxed (Transport.isSandboxed lookup)).execute settings.retryPolicy r

def sendTo {σ : Type} (respond : σ → Outgoing → Delivery × σ)
    (plan : Request → Plan (Except Transport.Failure Http.Response)) (server : σ) (r : Request) :
    Reply × σ :=
  let run := (plan r).run respond server
  (.of run.result, run.server)

def complaintText (c : Complaint) : String := (Resolution.error c.message).toJson.text ++ "\n"

def endText : Except Complaint Unit → String
  | .ok () => ""
  | .error c => complaintText c

def exitCode : Except Complaint Unit → UInt8
  | .ok () => 0
  | .error _ => 1

def usageCode : UInt8 := 2

end ClusterConsole.Console
