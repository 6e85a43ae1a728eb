import ClusterConsole.Proofs.Objects.Query
import ClusterConsole.Proofs.Text.Trim
import ClusterConsole.Proofs.Traffic.Sessions

/-!
# What a fetch sends

A fetch sends one request when it is issued and none later. The request is a search for the complete
predicates if there are any, and otherwise the listing from the cursor on.
-/

namespace ClusterConsole

open Json (Value)

namespace Filter.Predicate

def Complete (p : Predicate) : Prop := Text.trim p.property ≠ "" ∧ Text.trim p.value ≠ ""

instance (p : Predicate) : Decidable p.Complete := inferInstanceAs (Decidable (_ ∧ _))

theorem isActive_iff {p : Predicate} : p.isActive = true ↔ p.Complete := by
  simp [isActive, Complete, ← Text.allBlank_iff]

end Filter.Predicate

namespace FilterSet

variable {f g : FilterSet}

theorem active_eq (f : FilterSet) : f.active = f.predicates.filter fun p => p.Complete := by
  refine List.filter_congr fun p _ => ?_
  rw [Bool.eq_iff_iff, Filter.Predicate.isActive_iff, decide_eq_true_iff]

theorem active_insert {p : Filter.Predicate} (h : ¬p.Complete)
    (before after : List Filter.Predicate) (logic : Filter.Logic) :
    (FilterSet.mk (before ++ p :: after) logic).active =
      (FilterSet.mk (before ++ after) logic).active := by
  simp [active_eq, h]

end FilterSet

namespace Query

def commonFields (c : Connection) (className : String) (limit : UInt64) : Json.Fields :=
  [("id", .string c.id), ("name", .string c.name), ("scheme", .string c.scheme.name),
    ("address", .string c.address), ("apiKey", .string (c.apiKey.getD "")),
    ("className", .string className), ("limit", .number (.natural limit))]

def predicateFields (p : Filter.Predicate) : Json.Fields :=
  [("property", .string p.property), ("operator", .string p.operator.name),
    ("value", .string p.value)]

theorem body_eq (q : Query) (c : Connection) :
    q.body c = .object (commonFields c q.className q.limit ++ q.mode.fields) := rfl

theorem listing_request {q : Query} {after : Option String} (h : q.mode = .listing after)
    (c : Connection) (e : Backend.Endpoints) :
    (q.toRequest c e).method = .post ∧ (q.toRequest c e).url = e.objectsQuery ∧
      (q.toRequest c e).jsonBody? = some (.object (commonFields c q.className q.limit ++
        [("after", after.elim .null .string)])) := by
  refine ⟨rfl, ?_, ?_⟩
  · rw [toRequest_listing h]
    rfl
  · rw [jsonBody?_toRequest, body_eq, h]
    cases after <;> rfl

theorem search_request {q : Query} {ps : List Filter.Predicate} {logic : Filter.Logic}
    (h : q.mode = .search ps logic) (c : Connection) (e : Backend.Endpoints) :
    (q.toRequest c e).method = .post ∧ (q.toRequest c e).url = e.objectsSearch ∧
      (q.toRequest c e).jsonBody? = some (.object (commonFields c q.className q.limit ++
        [("filters", .array (ps.map fun p => .object (predicateFields p))),
          ("logic", .string logic.name)])) := by
  refine ⟨rfl, ?_, ?_⟩
  · rw [toRequest_search h]
    rfl
  · rw [jsonBody?_toRequest, body_eq, h]
    rfl

theorem Mode.select_congr {f g : FilterSet} (h : f.active = g.active)
    (hlogic : f.active ≠ [] → f.logic = g.logic) (after : Option String) :
    select f after = select g after := by
  by_cases ha : f.active = []
  · rw [select_listing ha, select_listing (h ▸ ha)]
  · rw [select_search ha, select_search (h ▸ ha), h, hlogic ha]

end Query

namespace Traffic

variable {config : Engine.Config} {t : Traffic}

theorem target_step (x : Event) (h : t.engine.target ≠ none) :
    (step config t x).engine.target ≠ none := by
  cases x with
  | select target =>
    by_cases ht : t.engine.target = some target <;> simp [step, Engine.selectTarget, ht]
  | filter f => by_cases hf : t.engine.filters = f <;> simpa [step, Engine.setFilters, hf] using h
  | restart => exact h
  | issue =>
    obtain ⟨target, ht⟩ := Option.ne_none_iff_exists'.1 h
    rw [step_issue, depart_of_target ht]
    exact h
  | land k reply =>
    cases hk : t.flight? k with
    | none => rwa [step_land, land_of_none hk]
    | some i => rwa [step_land, land_of_flight hk, Engine.complete_target]
  | displayPage n => exact h
  | displayPageSize n => exact h

theorem target_run (xs : List Event) (h : t.engine.target ≠ none) :
    (run config t xs).engine.target ≠ none := by
  induction xs generalizing t with
  | nil => exact h
  | cons x xs ih => exact ih (target_step x h)

end Traffic

namespace Session

open Engine (Target)

variable {s : Session}

def Event.isIssue : Event → Bool
  | .issue _ => true
  | _ => false

theorem step_issue {target : Target} (h : s.engine.target = some target) (name : String) :
    (s.step (.issue name)).requests = [(s.engine.fetchFor s.config target).request] ∧
      (s.step (.issue name)).session.engine = s.engine.departed := by
  have hissue : s.engine.issue s.config =
      .ok (s.engine.fetchFor s.config target, s.engine.departed) := Engine.issue_of_target h
  have hdepart : (s.traffic.depart s.config).engine = s.engine.departed := by
    rw [Traffic.depart_of_target h]
    rfl
  rw [step, issue, hissue]
  exact ⟨rfl, hdepart⟩

theorem lands_requests (reply : Backend.Reply) (ls : List Label) (o : Outcome) :
    (ls.foldl (fun o l => land o l reply) o).requests = o.requests := by
  induction ls generalizing o with
  | nil => rfl
  | cons l ls ih => exact ih (land o l reply)

theorem step_requests {x : Event} (h : x.isIssue = false) : (s.step x).requests = [] := by
  cases x with
  | issue name => cases h
  | answer name answer =>
    rw [step]
    split <;> rfl
  | advance ms => exact lands_requests _ _ _
  | select target => rfl
  | filter f => rfl
  | restart => rfl
  | displayPage n => rfl
  | displayPageSize n => rfl

def gather (o : Outcome) (x : Event) : Outcome :=
  ⟨(o.session.step x).session, o.finished ++ (o.session.step x).finished,
    o.requests ++ (o.session.step x).requests⟩

theorem run_eq (s : Session) (events : List Event) : s.run events = events.foldl gather s.quiet :=
  rfl

theorem gather_requests (o : Outcome) (events : List Event) :
    (events.foldl gather o).requests = o.requests ++ (o.session.run events).requests := by
  induction events generalizing o with
  | nil => exact (List.append_nil _).symm
  | cons x xs ih =>
    rw [run_eq, List.foldl_cons, List.foldl_cons, ih, ih]
    simp [gather, quiet]

theorem run_requests_cons (s : Session) (x : Event) (xs : List Event) :
    (s.run (x :: xs)).requests = (s.step x).requests ++ ((s.step x).session.run xs).requests := by
  rw [run_eq, List.foldl_cons, gather_requests]
  rfl

theorem run_requests_length (events : List Event) (h : s.engine.target ≠ none) :
    (s.run events).requests.length = events.countP Event.isIssue := by
  induction events generalizing s with
  | nil => rfl
  | cons x xs ih =>
    have hnext : (s.step x).session.engine.target ≠ none := by
      obtain ⟨-, moves, hmoves⟩ := follows_step s x
      rw [engine, hmoves]
      exact Traffic.target_run moves h
    rw [run_requests_cons, List.length_append, ih hnext, List.countP_cons, Nat.add_comm]
    cases hx : x.isIssue with
    | false => rw [step_requests hx]; rfl
    | true =>
      obtain ⟨target, htarget⟩ := Option.ne_none_iff_exists'.1 h
      have hsends : (s.step x).requests.length = 1 := by
        cases x with
        | issue name => rw [(step_issue htarget name).1, List.length_singleton]
        | _ => cases hx
      rw [hsends, if_pos rfl]

def withFilters (s : Session) (f : FilterSet) : Session :=
  { s with traffic := { s.traffic with engine := { s.engine with filters := f } } }

theorem withFilters_request {target : Target} (h : s.engine.target = some target)
    (name : String) {f g : FilterSet} (hactive : f.active = g.active)
    (hlogic : f.active ≠ [] → f.logic = g.logic) :
    ((s.withFilters f).step (.issue name)).requests =
      ((s.withFilters g).step (.issue name)).requests := by
  have hf : (s.withFilters f).engine.target = some target := h
  have hg : (s.withFilters g).engine.target = some target := h
  have hquery : (s.withFilters f).engine.query s.config target =
      (s.withFilters g).engine.query s.config target := by
    have hmode := Query.Mode.select_congr hactive hlogic s.engine.cursor.id?
    exact congrArg (Query.mk target.className s.config.options.fetchPageSize) hmode
  rw [(step_issue hf name).1, (step_issue hg name).1]
  exact congrArg (fun q => [q.toRequest target.connection s.config.endpoints]) hquery

def Sample.filtered : Session :=
  ((new Sample.config).run [.select Sample.target, .filter Sample.filters]).session

def Sample.blank : Filter.Predicate := ⟨"color", .like, "\u2003"⟩

end Session

end ClusterConsole
