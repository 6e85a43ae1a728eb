import ClusterConsole.Proofs.Traffic.Runs
import Mathlib.Data.List.Basic

/-!
# Supersession

An event supersedes when it makes every fetch under way stale. A fetch is applied, or its failure
reported, exactly when nothing superseded it since it was issued. Of the fetches under way at most
one is not superseded, so the order in which their replies arrive does not matter.
-/

namespace ClusterConsole.Traffic

open Backend (Reply)
open Engine (Completion Config Issued)

variable {config : Config} {t : Traffic} {k : Ticket} {reply : Reply}

/-- Another fetch, another target and other filters make the fetches under way stale. -/
def Supersedes (e : Engine) : Event → Prop
  | .issue => e.target ≠ none
  | .select x => e.target ≠ some x
  | .filter f => e.filters ≠ f
  | _ => False

instance (e : Engine) (x : Event) : Decidable (Supersedes e x) := by
  cases x <;> unfold Supersedes <;> infer_instance

/-- One of the events supersedes, each taken at the state that it finds. -/
def Superseded (config : Config) (t : Traffic) : List Event → Prop
  | [] => False
  | x :: xs => Supersedes t.engine x ∨ Superseded config (step config t x) xs

instance (config : Config) (t : Traffic) (xs : List Event) :
    Decidable (Superseded config t xs) := by
  induction xs generalizing t with
  | nil => exact .isFalse id
  | cons x xs ih => exact @instDecidableOr _ _ _ (ih (step config t x))

theorem generation_step (config : Config) (t : Traffic) (x : Event) :
    (step config t x).engine.store.generation =
      t.engine.store.generation + if Supersedes t.engine x then 1 else 0 := by
  cases x with
  | select target =>
    by_cases h : t.engine.target = some target <;>
      simp [step, Engine.selectTarget, Supersedes, Store.clear, Store.invalidate, h]
  | filter f =>
    by_cases h : t.engine.filters = f <;>
      simp [step, Engine.setFilters, Supersedes, Store.invalidate, h]
  | restart => rfl
  | issue =>
    cases h : t.engine.target with
    | none => simp [step, depart_of_no_target h, Supersedes, h]
    | some target =>
      simp [step, depart_of_target h, Supersedes, h, Engine.departed, Store.invalidate]
  | land k reply => exact land_generation
  | displayPage n => rfl
  | displayPageSize n => rfl

theorem generation_le_run (config : Config) (t : Traffic) (xs : List Event) :
    t.engine.store.generation ≤ (run config t xs).engine.store.generation := by
  induction xs generalizing t with
  | nil => exact Nat.le_refl _
  | cons x xs ih =>
    have hx := generation_step config t x
    have hxs := ih (step config t x)
    rw [run_cons]
    omega

theorem generation_run_eq_iff (config : Config) (t : Traffic) (xs : List Event) :
    (run config t xs).engine.store.generation = t.engine.store.generation ↔
      ¬Superseded config t xs := by
  induction xs generalizing t with
  | nil => simp [run, Superseded]
  | cons x xs ih =>
    have hx := generation_step config t x
    have hle := generation_le_run config (step config t x) xs
    have hxs := ih (step config t x)
    rw [run_cons, Superseded, not_or, ← hxs]
    split at hx
    · next hs => simp only [hs, not_true_eq_false, false_and, iff_false]; omega
    · next hs => simp only [hs, not_false_eq_true, true_and]; omega

theorem mem_flights_run {i : Issued} {xs : List Event} (h : i ∈ (run config t xs).flights) :
    i ∈ t.flights ∨ ∃ ys zs e, xs = ys ++ .issue :: zs ∧
      (run config t ys).engine.issue config = .ok (i, e) := by
  induction xs generalizing t with
  | nil => exact .inl h
  | cons x xs ih =>
    rcases ih h with hi | ⟨ys, zs, e, rfl, he⟩
    · cases x with
      | issue =>
        cases ht : t.engine.target with
        | none => rw [step_issue, depart_of_no_target ht] at hi; exact .inl hi
        | some target =>
          rw [step_issue, depart_of_target ht] at hi
          rcases List.mem_append.1 hi with hi | hi
          · exact .inl hi
          · rw [List.mem_singleton.1 hi]
            exact .inr ⟨[], xs, _, rfl, Engine.issue_of_target ht⟩
      | land k reply => exact .inl (mem_land_flights.1 hi).1
      | select target => exact .inl hi
      | filter f => exact .inl hi
      | restart => exact .inl hi
      | displayPage n => exact .inl hi
      | displayPageSize n => exact .inl hi
    · exact .inr ⟨x :: ys, zs, e, rfl, he⟩

theorem issue_generation {i : Issued} {e : Engine} (h : t.engine.issue config = .ok (i, e)) :
    i.ticket.generation = (step config t .issue).engine.store.generation := by
  obtain ⟨target, ht, rfl, -⟩ := Engine.issue_eq_ok.1 h
  rw [step_issue, depart_of_target ht]
  rfl

theorem mem_flights_run_of_mem {i : Issued} {xs : List Event} (h : i ∈ t.flights)
    (hx : ∀ r, .land i.ticket r ∉ xs) : i ∈ (run config t xs).flights := by
  induction xs generalizing t with
  | nil => exact h
  | cons x xs ih =>
    refine ih ?_ fun r hr => hx r (.tail _ hr)
    cases x with
    | issue =>
      cases ht : t.engine.target with
      | none => rwa [step_issue, depart_of_no_target ht]
      | some target =>
        rw [step_issue, depart_of_target ht]
        exact List.mem_append_left _ h
    | land k reply =>
      refine mem_land_flights.2 ⟨h, ?_⟩
      rintro rfl
      exact hx reply (.head _)
    | select target => exact h
    | filter f => exact h
    | restart => exact h
    | displayPage n => exact h
    | displayPageSize n => exact h

/-- The ticket of an issue names the fetch that it put under way until an event completes it. -/
theorem flight?_issued {i : Issued} {e : Engine} {xs : List Event} (past : List Event)
    (h : (after config past).engine.issue config = .ok (i, e)) (hx : ∀ r, .land i.ticket r ∉ xs) :
    (after config (past ++ .issue :: xs)).flight? i.ticket = some i := by
  have hmem : i ∈ (after config (past ++ .issue :: xs)).flights := by
    rw [after_append_cons]
    refine mem_flights_run_of_mem ?_ hx
    obtain ⟨target, ht, rfl, -⟩ := Engine.issue_eq_ok.1 h
    rw [step_issue, depart_of_target ht]
    exact List.mem_append_right _ (List.mem_singleton.2 rfl)
  exact (after_ordered config _).flight?_of_mem hmem

theorem complete_stale_iff {i : Issued} {e : Engine} {xs : List Event}
    (h : t.engine.issue config = .ok (i, e)) :
    ((run config (step config t .issue) xs).engine.complete i reply).1 = .stale ↔
      Superseded config (step config t .issue) xs := by
  have hi := issue_generation h
  have hg := generation_run_eq_iff config (step config t .issue) xs
  rcases Engine.complete_cases (run config (step config t .issue) xs).engine i reply with
    ⟨hk, hc⟩ | ⟨hk, f, -, hc⟩ | ⟨hk, p, -, hc⟩
  · rw [hc, eq_self, true_iff]
    by_contra hs
    exact hk (hi.trans (hg.2 hs).symm)
  · rw [hc, iff_false_left (by simp), ← hg]
    omega
  · rw [hc, iff_false_left (by simp), ← hg]
    omega

def landings (replies : Ticket → Reply) (order : List Ticket) : List Event :=
  order.map fun k => .land k (replies k)

theorem completion?_land_of_ne {k' : Ticket} {reply' : Reply} (h : k ≠ k') :
    (t.land k reply).completion? k' reply' = t.completion? k' reply' := by
  rw [completion?, completion?, flight?_land_of_ne h]
  cases hk' : t.flight? k' with
  | none => rfl
  | some j =>
    cases hk : t.flight? k with
    | none => rw [land_of_none hk]
    | some i =>
      have hij : i.ticket ≠ j.ticket := by
        rw [(flight?_some hk).2, (flight?_some hk').2]
        exact h
      simp [land_of_flight hk, Engine.complete_after hij]

theorem land_comm {k' : Ticket} {reply' : Reply} (h : k ≠ k') :
    (t.land k reply).land k' reply' = (t.land k' reply').land k reply := by
  cases hk : t.flight? k with
  | none => rw [land_of_none hk, land_of_none ((flight?_land_of_ne h.symm).trans hk)]
  | some i =>
    cases hk' : t.flight? k' with
    | none => rw [land_of_none hk', land_of_none ((flight?_land_of_ne h).trans hk')]
    | some j =>
      have hij : i.ticket ≠ j.ticket := by
        rw [(flight?_some hk).2, (flight?_some hk').2]
        exact h
      rw [land_of_flight ((flight?_land_of_ne h).trans hk'),
        land_of_flight ((flight?_land_of_ne h.symm).trans hk), land_of_flight hk,
        land_of_flight hk', Engine.complete_comm hij, List.filter_comm]

theorem landings_perm (replies : Ticket → Reply) {order order' : List Ticket}
    (h : order.Perm order') (t : Traffic) :
    run config t (landings replies order) = run config t (landings replies order') ∧
      (outcomes config t (landings replies order)).Perm
        (outcomes config t (landings replies order')) := by
  induction h generalizing t with
  | nil => exact ⟨rfl, .refl _⟩
  | cons k _ ih =>
    obtain ⟨hrun, hout⟩ := ih (t.land k (replies k))
    exact ⟨hrun, hout.append_left _⟩
  | swap k k' order =>
    by_cases hk : k = k'
    · subst hk
      exact ⟨rfl, .refl _⟩
    · have hcomm : (t.land k' (replies k')).land k (replies k) =
          (t.land k (replies k)).land k' (replies k') := land_comm (Ne.symm hk)
      refine ⟨congrArg (run config · (landings replies order)) hcomm, ?_⟩
      simp only [landings, List.map_cons, outcomes, step, outcome?, hcomm,
        completion?_land_of_ne hk, completion?_land_of_ne (Ne.symm hk), ← List.append_assoc]
      exact (List.perm_append_comm).append_right _
  | trans _ _ ih ih' => exact ⟨(ih t).1.trans (ih' t).1, (ih t).2.trans (ih' t).2⟩

/-- What comes of a fetch is decided by the events between its issue and the arrival of its reply:
it is applied or its failure reported exactly when none of them superseded it, and it changes
nothing otherwise. The order in which replies arrive changes neither the traffic after them nor what
comes of any fetch. -/
theorem outcome_decided_by_history (config : Config) (past : List Event) :
    (∀ (i : Issued) (e : Engine) (later : List Event) (reply : Reply),
      (after config past).engine.issue config = .ok (i, e) →
      (∀ r, .land i.ticket r ∉ later) →
      ∃ c, (after config (past ++ .issue :: later)).completion? i.ticket reply = some c ∧
        ((∃ r, c = .applied r) ∨ (∃ f, c = .failed f) ↔
          ¬Superseded config (after config (past ++ [.issue])) later) ∧
        (Superseded config (after config (past ++ [.issue])) later →
          c = .stale ∧
          (after config (past ++ .issue :: later ++ [.land i.ticket reply])).engine =
            (after config (past ++ .issue :: later)).engine)) ∧
    ∀ (replies : Ticket → Reply) (order order' : List Ticket), order.Perm order' →
      after config (past ++ landings replies order) =
        after config (past ++ landings replies order') ∧
      (outcomes config (after config past) (landings replies order)).Perm
        (outcomes config (after config past) (landings replies order')) := by
  refine ⟨?_, ?_⟩
  · intro i e later reply hissue hfirst
    have hflight := flight?_issued past hissue hfirst
    have hstale : ((after config (past ++ .issue :: later)).engine.complete i reply).1 = .stale ↔
        Superseded config (after config (past ++ [.issue])) later := by
      rw [after_append_cons, after_concat]
      exact complete_stale_iff hissue
    refine ⟨_, by rw [completion?, hflight]; rfl, ?_, fun hs => ⟨hstale.2 hs, ?_⟩⟩
    · rw [← hstale]
      cases ((after config (past ++ .issue :: later)).engine.complete i reply).1 <;> simp
    · rw [after_concat, step_land, land_of_flight hflight]
      exact Engine.complete_stale (hstale.2 hs)
  · intro replies order order' h
    rw [after_append, after_append]
    exact landings_perm replies h _

def Sample.selected : List Event := [.select Sample.target]

def Sample.overlapping : List Event := [.select Sample.target, .issue, .issue]

def Sample.detour : List Event := [.filter Sample.filters, .filter .empty]

def Sample.fetch : Issued :=
  (after Sample.config Sample.selected).engine.fetchFor Sample.config Sample.target

theorem Sample.fetch_issued : (after Sample.config Sample.selected).engine.issue Sample.config =
    .ok (Sample.fetch, (after Sample.config Sample.selected).engine.departed) :=
  Engine.issue_of_target rfl

/-- A fetch is stale once the filters were changed, even back, and of two fetches that time out the
order does not count. -/
theorem outcome_after_filters_changed_back :
    ((after Sample.config (Sample.selected ++ .issue :: Sample.detour)).completion?
        Sample.fetch.ticket (.timeout 5) = some .stale ∧
      (after Sample.config (Sample.selected ++ .issue :: Sample.detour ++
        [.land Sample.fetch.ticket (.timeout 5)])).engine =
      (after Sample.config (Sample.selected ++ .issue :: Sample.detour)).engine) ∧
    after Sample.config (Sample.overlapping ++ landings (fun _ => .timeout 5) [⟨2⟩, ⟨3⟩]) =
      after Sample.config (Sample.overlapping ++ landings (fun _ => .timeout 5) [⟨3⟩, ⟨2⟩]) := by
  have hs : Superseded Sample.config (after Sample.config (Sample.selected ++ [.issue]))
      Sample.detour := by decide
  have hfirst : ∀ r, .land Sample.fetch.ticket r ∉ Sample.detour := by simp [Sample.detour]
  have horder : List.Perm [⟨2⟩, ⟨3⟩] [(⟨3⟩ : Ticket), ⟨2⟩] := by decide
  obtain ⟨c, hc, -, hstale⟩ := (outcome_decided_by_history Sample.config Sample.selected).1 _ _
    Sample.detour (.timeout 5) Sample.fetch_issued hfirst
  have hperm := (outcome_decided_by_history Sample.config Sample.overlapping).2
    (fun _ => .timeout 5) _ _ horder
  obtain ⟨rfl, hsame⟩ := hstale hs
  exact ⟨⟨hc, hsame⟩, hperm.1⟩

end ClusterConsole.Traffic
