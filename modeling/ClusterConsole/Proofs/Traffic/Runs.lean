import ClusterConsole.Objects.Traffic
import ClusterConsole.Proofs.Engine.Operations

/-!
# Runs of traffic

What a departure and a landing can be, and what holds of the fetches under way after any events:
their tickets ascend and none is newer than the engine's generation, so a ticket names one fetch.
-/

namespace ClusterConsole.Traffic

open Backend (Failure Reply)
open Engine (Completion Config Issued Report Target)

variable {config : Config} {t : Traffic} {k : Ticket} {reply : Reply}

theorem run_append (config : Config) (t : Traffic) (xs ys : List Event) :
    run config t (xs ++ ys) = run config (run config t xs) ys := by
  simp [run, List.foldl_append]

theorem run_cons (config : Config) (t : Traffic) (x : Event) (xs : List Event) :
    run config t (x :: xs) = run config (step config t x) xs := rfl

theorem after_append (config : Config) (xs ys : List Event) :
    after config (xs ++ ys) = run config (after config xs) ys := run_append _ _ _ _

theorem after_append_cons (config : Config) (xs ys : List Event) (x : Event) :
    after config (xs ++ x :: ys) = run config (step config (after config xs) x) ys := by
  rw [after_append, run_cons]

theorem after_concat (config : Config) (xs : List Event) (x : Event) :
    after config (xs ++ [x]) = step config (after config xs) x := after_append_cons _ _ _ _

theorem step_issue : step config t .issue = t.depart config := rfl

theorem step_land : step config t (.land k reply) = t.land k reply := rfl

theorem after_induction {P : Traffic → Prop} (config : Config) (base : P (start config))
    (keep : ∀ t x, P t → P (step config t x)) (events : List Event) : P (after config events) := by
  have h : ∀ (xs : List Event) (t : Traffic), P t → P (run config t xs) := by
    intro xs
    induction xs with
    | nil => intro t ht; exact ht
    | cons x xs ih => intro t ht; exact ih _ (keep t x ht)
  exact h events _ base

theorem depart_of_target {target : Target} (h : t.engine.target = some target) :
    t.depart config = ⟨t.engine.departed, t.flights ++ [t.engine.fetchFor config target]⟩ := by
  simp [depart, Engine.issue_of_target h]

theorem depart_of_no_target (h : t.engine.target = none) : t.depart config = t := by
  simp [depart, Engine.issue_of_no_target h]

theorem flight?_some {i : Issued} (h : t.flight? k = some i) : i ∈ t.flights ∧ i.ticket = k :=
  ⟨List.mem_of_find?_eq_some h, by simpa using List.find?_some h⟩

theorem flight?_none (h : t.flight? k = none) : ∀ i ∈ t.flights, i.ticket ≠ k := by
  simpa [flight?] using h

theorem land_of_flight {i : Issued} (h : t.flight? k = some i) :
    t.land k reply =
      ⟨(t.engine.complete i reply).2, t.flights.filter fun j => j.ticket ≠ k⟩ := by
  simp [land, h]

theorem land_of_none (h : t.flight? k = none) : t.land k reply = t := by
  simp [land, h]

theorem land_generation :
    (t.land k reply).engine.store.generation = t.engine.store.generation := by
  cases h : t.flight? k with
  | none => rw [land_of_none h]
  | some i => rw [land_of_flight h]; exact Engine.complete_generation

theorem land_flights (t : Traffic) (k : Ticket) (reply : Reply) :
    (t.land k reply).flights = t.flights.filter fun i => i.ticket ≠ k := by
  cases h : t.flight? k with
  | none =>
    rw [land_of_none h]
    exact (List.filter_eq_self.2 fun i hi => by simpa using flight?_none h i hi).symm
  | some i => rw [land_of_flight h]

theorem mem_land_flights {i : Issued} :
    i ∈ (t.land k reply).flights ↔ i ∈ t.flights ∧ i.ticket ≠ k := by
  simp [land_flights]

theorem flight?_land_of_ne {k' : Ticket} (h : k ≠ k') :
    (t.land k reply).flight? k' = t.flight? k' := by
  rw [flight?, flight?, land_flights, List.find?_filter]
  congr 1
  funext i
  by_cases hi : i.ticket = k' <;> simp [hi, h.symm]

/-- The tickets under way ascend, and the engine's generation is at least the last. -/
structure Ordered (t : Traffic) : Prop where
  ascending : t.flights.Pairwise fun i j => i.ticket.generation < j.ticket.generation
  bounded : ∀ i ∈ t.flights, i.ticket.generation ≤ t.engine.store.generation

theorem Ordered.depart (h : Ordered t) : Ordered (t.depart config) := by
  cases ht : t.engine.target with
  | none => rwa [depart_of_no_target ht]
  | some target =>
    rw [depart_of_target ht]
    refine ⟨List.pairwise_append.2 ⟨h.ascending, List.pairwise_singleton _ _, ?_⟩, ?_⟩
    · intro i hi j hj
      rw [List.mem_singleton.1 hj]
      exact Nat.lt_succ_of_le (h.bounded i hi)
    · intro i hi
      rcases List.mem_append.1 hi with hi | hi
      · exact Nat.le_succ_of_le (h.bounded i hi)
      · rw [List.mem_singleton.1 hi]
        exact Nat.le_refl _

theorem Ordered.land (h : Ordered t) : Ordered (t.land k reply) := by
  cases hk : t.flight? k with
  | none => rwa [land_of_none hk]
  | some i =>
    rw [land_of_flight hk]
    refine ⟨h.ascending.filter _, fun j hj => ?_⟩
    rw [Engine.complete_generation]
    exact h.bounded j (List.mem_filter.1 hj).1

theorem Ordered.unique (h : Ordered t) {i j : Issued} (hi : i ∈ t.flights) (hj : j ∈ t.flights)
    (hk : i.ticket = j.ticket) : i = j := by
  have apart : ∀ {i j : Issued}, i.ticket.generation < j.ticket.generation →
      i.ticket ≠ j.ticket := by
    intro i j hlt hk
    rw [hk] at hlt
    exact Nat.lt_irrefl _ hlt
  exact List.Pairwise.forall_of_forall_of_flip (R := fun i j => i.ticket = j.ticket → i = j)
    (fun _ _ _ => rfl) (h.ascending.imp fun hlt hk => absurd hk (apart hlt))
    (h.ascending.imp fun hlt hk => absurd hk.symm (apart hlt)) hi hj hk

theorem Ordered.flight?_of_mem (h : Ordered t) {i : Issued} (hi : i ∈ t.flights) :
    t.flight? i.ticket = some i := by
  cases hk : t.flight? i.ticket with
  | none => exact absurd rfl (flight?_none hk i hi)
  | some j =>
    obtain ⟨hj, hij⟩ := flight?_some hk
    rw [h.unique hj hi hij]

theorem Ordered.raise (h : Ordered t) {e : Engine}
    (he : t.engine.store.generation ≤ e.store.generation) : Ordered { t with engine := e } :=
  ⟨h.ascending, fun i hi => Nat.le_trans (h.bounded i hi) he⟩

theorem Ordered.step (h : Ordered t) (x : Event) : Ordered (step config t x) := by
  cases x with
  | select target =>
    refine h.raise ?_
    unfold Engine.selectTarget
    split
    · exact Nat.le_refl _
    · exact Nat.le_succ _
  | filter f =>
    refine h.raise ?_
    unfold Engine.setFilters
    split
    · exact Nat.le_refl _
    · exact Nat.le_succ _
  | restart => exact h.raise (Nat.le_refl _)
  | issue => exact h.depart
  | land k reply => exact h.land
  | displayPage n => exact h.raise (Nat.le_refl _)
  | displayPageSize n => exact h.raise (Nat.le_refl _)

theorem ordered_start (config : Config) : Ordered (start config) := by
  refine ⟨List.Pairwise.nil, ?_⟩
  intro i hi
  cases hi

theorem after_ordered (config : Config) (events : List Event) : Ordered (after config events) :=
  after_induction config (ordered_start config) (fun _ x h => h.step x) events

end ClusterConsole.Traffic
