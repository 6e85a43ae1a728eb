import ClusterConsole.Objects.Traffic

/-!
# Sessions

A session gives the fetches under way on an engine a name and a clock. Its events are what a script
can say: an answer goes to the last fetch of a name, and time that passes lets fetches fail that
have taken too long.
-/

namespace ClusterConsole

namespace Session

structure Label where
  name : String
  ticket : Ticket
  /-- When its fetch was issued. -/
  since : Nat
  deriving DecidableEq, Repr

abbrev Answer := Except Transport.Failure Http.Response

inductive Event where
  | select (target : Engine.Target)
  | filter (filters : FilterSet)
  | restart
  | issue (name : String)
  | answer (name : String) (answer : Answer)
  | advance (millis : Nat)
  | displayPage (index : UInt64)
  | displayPageSize (size : UInt64)

end Session

/-- The labels stand in the order of the fetches under way. -/
structure Session where
  config : Engine.Config
  clock : Nat
  traffic : Traffic
  labels : List Session.Label

namespace Session

structure Outcome where
  session : Session
  finished : List (String × Engine.Completion)
  requests : List Http.Request

def new (config : Engine.Config) : Session := ⟨config, 0, .start config, []⟩

def engine (s : Session) : Engine := s.traffic.engine

def quiet (s : Session) : Outcome := ⟨s, [], []⟩

def act (s : Session) (e : Traffic.Event) : Session :=
  { s with traffic := s.traffic.step s.config e }

def land (o : Outcome) (l : Label) (r : Backend.Reply) : Outcome :=
  let completed := (o.session.traffic.completion? l.ticket r).map fun c => (l.name, c)
  { o with
    session := o.session.act (.land l.ticket r)
    finished := o.finished ++ completed.toList }

def issue (s : Session) (name : String) : Outcome :=
  match s.engine.issue s.config with
  | .error failure => ⟨s, [(name, .failed failure)], []⟩
  | .ok (issued, _) =>
    let departed := s.act .issue
    ⟨{ departed with labels := s.labels ++ [⟨name, issued.ticket, s.clock⟩] }, [], [issued.request]⟩

def takeLast (name : String) (labels : List Label) : Option (Label × List Label) :=
  match labels.reverse.span (·.name != name) with
  | (later, l :: earlier) => some (l, earlier.reverse ++ later.reverse)
  | (_, []) => none

def isLate (timeout : Option Nat) (now : Nat) (l : Label) : Bool :=
  match timeout with
  | some ms => ms < now - l.since
  | none => false

/-- Time passes, and the fetches that have taken too long fail, the oldest first. -/
def advance (s : Session) (millis : Nat) : Outcome :=
  let now := s.clock + millis
  let timeout := s.config.options.timeout
  let late := s.labels.filter (isLate timeout now)
  let start := quiet { s with clock := now, labels := s.labels.filter (!isLate timeout now ·) }
  late.foldl (fun o l => land o l (.timeout (timeout.getD 0))) start

def step (s : Session) : Event → Outcome
  | .select t => quiet (s.act (.select t))
  | .filter f => quiet (s.act (.filter f))
  | .restart => quiet (s.act .restart)
  | .issue name => s.issue name
  | .answer name answer =>
    match takeLast name s.labels with
    | some (l, labels) => land (quiet { s with labels }) l (.of answer)
    | none => s.quiet
  | .advance ms => s.advance ms
  | .displayPage n => quiet (s.act (.displayPage n))
  | .displayPageSize n => quiet (s.act (.displayPageSize n))

def run (s : Session) (events : List Event) : Outcome :=
  events.foldl (fun o ev =>
    let next := o.session.step ev
    ⟨next.session, o.finished ++ next.finished, o.requests ++ next.requests⟩) s.quiet

end Session

end ClusterConsole
