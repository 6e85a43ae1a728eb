import ClusterConsole.Network.Arrival

/-!
# Plans

A plan says which attempts are made and how long is waited between them, where each move depends on
what came of the attempts before it. Running it against a server, and against the client in between,
keeps all its moves.
-/

namespace ClusterConsole.Network

open Http (Request)

inductive Plan (α : Type) where
  | done (result : α)
  | attempt (request : Request) (next : Except Fault Arrival → Plan α)
  | wait (millis : Nat) (next : Plan α)

inductive Move where
  | attempted (request : Request)
  | waited (millis : Nat)
  deriving DecidableEq, Repr

structure Run (σ α : Type) where
  result : α
  server : σ
  moves : List Move

variable {σ α β : Type}

/-- One hand-over of a request to the client. What client and server do within it is `respond`: the
request may be sent on to other addresses there, by a client that follows redirects. -/
def attempt (respond : σ → Outgoing → Delivery × σ) (server : σ) (r : Request) :
    Except Fault Arrival × σ :=
  match prepare r with
  | .error f => (.error f, server)
  | .ok out =>
    let (delivery, server) := respond server out
    (delivery.arrival out.url, server)

def Run.after (moves : List Move) (r : Run σ α) : Run σ α := { r with moves := moves ++ r.moves }

namespace Plan

def map (f : α → β) : Plan α → Plan β
  | done a => done (f a)
  | attempt r next => attempt r fun a => (next a).map f
  | wait ms next => wait ms (next.map f)

def run (respond : σ → Outgoing → Delivery × σ) : Plan α → σ → Run σ α
  | done a, server => ⟨a, server, []⟩
  | attempt r next, server =>
    let (arrival, server) := Network.attempt respond server r
    ((next arrival).run respond server).after [.attempted r]
  | wait ms next, server => (next.run respond server).after [.waited ms]

theorem map_run (f : α → β) (respond : σ → Outgoing → Delivery × σ) (p : Plan α) (server : σ) :
    (p.map f).run respond server =
      ⟨f (p.run respond server).result, (p.run respond server).server,
        (p.run respond server).moves⟩ := by
  induction p generalizing server with
  | done a => rfl
  | attempt r next ih => simp [map, run, ih, Run.after]
  | wait ms next ih => simp [map, run, ih, Run.after]

end Plan

end ClusterConsole.Network
