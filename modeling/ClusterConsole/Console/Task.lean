import ClusterConsole.Backend.Envelope

/-!
# Tasks

A task is what a command does: it asks the backend and prints, one after the other, and ends with a
result or a complaint. What has been printed before a complaint stays printed. Running a task
against a server keeps what was asked and what was printed.
-/

namespace ClusterConsole.Console

open Backend (Failure Reply)
open Http (Request)

inductive Complaint where
  | backend (failure : Failure)
  | noCluster
  | noObject (id : String)
  deriving DecidableEq, Repr

def Complaint.message : Complaint → String
  | .backend f => f.message
  | .noCluster => "either --connection-id or --address is required"
  | .noObject id => "object " ++ id ++ " not found in the fetched page"

inductive Task (α : Type) where
  | done (result : α)
  | fail (complaint : Complaint)
  | ask (request : Request) (next : Reply → Task α)
  | print (text : String) (next : Task α)

namespace Task

variable {σ α β : Type}

def bind (f : α → Task β) : Task α → Task β
  | done a => f a
  | fail c => fail c
  | ask r next => ask r fun reply => (next reply).bind f
  | print text next => print text (next.bind f)

instance : Monad Task where
  pure := done
  bind t f := t.bind f

def ofExcept : Except Failure α → Task α
  | .ok a => done a
  | .error f => fail (.backend f)

def printLine (text : String) : Task Unit := print (text ++ "\n") (done ())

def printJson (v : Json.Value) : Task Unit := printLine v.pretty

end Task

structure Transcript (σ α : Type) where
  result : Except Complaint α
  server : σ
  asked : List Request
  printed : List String

namespace Task

variable {σ α : Type}

def run (send : σ → Request → Reply × σ) : Task α → σ → Transcript σ α
  | done a, server => ⟨.ok a, server, [], []⟩
  | fail c, server => ⟨.error c, server, [], []⟩
  | ask r next, server =>
    let (reply, server) := send server r
    let t := (next reply).run send server
    { t with asked := r :: t.asked }
  | print text next, server =>
    let t := next.run send server
    { t with printed := text :: t.printed }

end Task

end ClusterConsole.Console
