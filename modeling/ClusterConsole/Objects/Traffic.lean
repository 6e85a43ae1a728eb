import ClusterConsole.Objects.Engine

/-!
# Traffic

An engine and the fetches under way on it, the oldest first. An event is one step of one of the
tasks that share the engine, and finds it as the step before left it, whoever took that one. A
refresh takes two steps, `restart` and then `issue`.
-/

namespace ClusterConsole

open Backend (Reply)

namespace Traffic

inductive Event where
  | select (target : Engine.Target)
  | filter (filters : FilterSet)
  | restart
  | issue
  | land (ticket : Ticket) (reply : Reply)
  | displayPage (index : UInt64)
  | displayPageSize (size : UInt64)
  deriving DecidableEq, Repr

end Traffic

structure Traffic where
  engine : Engine
  flights : List Engine.Issued

namespace Traffic

def start (config : Engine.Config) : Traffic := ⟨.new config, []⟩

def flight? (t : Traffic) (k : Ticket) : Option Engine.Issued :=
  t.flights.find? fun i => i.ticket = k

def completion? (t : Traffic) (k : Ticket) (reply : Reply) : Option Engine.Completion :=
  (t.flight? k).map fun i => (t.engine.complete i reply).1

def land (t : Traffic) (k : Ticket) (reply : Reply) : Traffic :=
  match t.flight? k with
  | some i => ⟨(t.engine.complete i reply).2, t.flights.filter fun i => i.ticket ≠ k⟩
  | none => t

def depart (config : Engine.Config) (t : Traffic) : Traffic :=
  match t.engine.issue config with
  | .ok (i, engine) => ⟨engine, t.flights ++ [i]⟩
  | .error _ => t

def step (config : Engine.Config) (t : Traffic) : Event → Traffic
  | .select x => { t with engine := t.engine.selectTarget x }
  | .filter f => { t with engine := t.engine.setFilters f }
  | .restart => { t with engine := t.engine.restart }
  | .issue => t.depart config
  | .land k reply => t.land k reply
  | .displayPage n => { t with engine := t.engine.setDisplayPage n }
  | .displayPageSize n => { t with engine := t.engine.setDisplayPageSize n }

def run (config : Engine.Config) (t : Traffic) (events : List Event) : Traffic :=
  events.foldl (step config) t

def after (config : Engine.Config) (events : List Event) : Traffic :=
  run config (start config) events

def outcome? (t : Traffic) : Event → Option (Ticket × Engine.Completion)
  | .land k reply => (t.completion? k reply).map fun c => (k, c)
  | _ => none

def outcomes (config : Engine.Config) : Traffic → List Event → List (Ticket × Engine.Completion)
  | _, [] => []
  | t, x :: xs => (t.outcome? x).toList ++ outcomes config (step config t x) xs

end Traffic

end ClusterConsole
