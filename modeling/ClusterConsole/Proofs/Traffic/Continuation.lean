import ClusterConsole.Proofs.Traffic.Coherence
import ClusterConsole.Proofs.Traffic.Supersession

/-!
# The continuation of a listing

Two pages of a listing are applied one after the other when no refresh, no other target, no other
filters and no other page come between. The second was then issued after the first was applied, and
continues where the first ended.
-/

namespace ClusterConsole.Traffic

open Backend (Reply)
open Engine (Config Continues Issued Report)
open Query (Listing)

variable {config : Config} {t : Traffic} {k : Ticket} {reply : Reply}

def listing? (t : Traffic) (k : Ticket) (reply : Reply) : Option Report :=
  match t.completion? k reply with
  | some (.applied r) => if r.searchMode then none else some r
  | _ => none

/-- The event moves a listing, by a refresh, another target, other filters or another page. -/
def Disturbs (t : Traffic) : Event → Prop
  | .restart => True
  | .select x => t.engine.target ≠ some x
  | .filter f => t.engine.filters ≠ f
  | .land k reply => (t.listing? k reply).isSome
  | _ => False

instance (t : Traffic) (x : Event) : Decidable (Disturbs t x) :=
  match x with
  | .restart => .isTrue trivial
  | .select x => inferInstanceAs (Decidable (¬t.engine.target = some x))
  | .filter f => inferInstanceAs (Decidable (¬t.engine.filters = f))
  | .land k reply => inferInstanceAs (Decidable ((t.listing? k reply).isSome = true))
  | .issue => .isFalse id
  | .displayPage _ => .isFalse id
  | .displayPageSize _ => .isFalse id

def Undisturbed (config : Config) (t : Traffic) : List Event → Prop
  | [] => True
  | x :: xs => ¬Disturbs t x ∧ Undisturbed config (step config t x) xs

instance (config : Config) (t : Traffic) (xs : List Event) :
    Decidable (Undisturbed config t xs) := by
  induction xs generalizing t with
  | nil => exact .isTrue trivial
  | cons x xs ih => exact @instDecidableAnd _ _ _ (ih (step config t x))

theorem undisturbed_append {xs ys : List Event} (h : Undisturbed config t (xs ++ ys)) :
    Undisturbed config t xs := by
  induction xs generalizing t with
  | nil => trivial
  | cons x xs ih => exact ⟨h.1, ih h.2⟩

theorem listing?_some {i : Issued} {r : Report} (hi : t.flight? k = some i)
    (h : t.listing? k reply = some r) :
    i.ticket.generation = t.engine.store.generation ∧ i.query.mode.isSearch = false ∧
      ∃ p, Engine.payloadOf i.query reply = .ok p ∧ r = t.engine.reportOn i.query p ∧
        (t.land k reply).engine = t.engine.taking i.query p := by
  rw [listing?, completion?, hi, Option.map_some] at h
  rw [land_of_flight hi]
  cases hc : (t.engine.complete i reply).1 with
  | stale =>
    rw [hc] at h
    cases h
  | failed f =>
    rw [hc] at h
    cases h
  | applied r' =>
    obtain ⟨hg, p, hp, hr', htaken⟩ := Engine.complete_applied hc
    obtain ⟨hlisting, rfl⟩ : r'.searchMode = false ∧ r' = r := by
      rw [hc] at h
      simpa using h
    rw [hr'] at hlisting
    exact ⟨hg, hlisting, p, hp, hr', htaken⟩

theorem land_keeps_listing (hc : Coherent config t) (ha : t.engine.filters.active = [])
    (h : t.listing? k reply = none) :
    (t.land k reply).engine.cursor = t.engine.cursor ∧
      (t.land k reply).engine.filters = t.engine.filters := by
  cases hk : t.flight? k with
  | none => simp [land_of_none hk]
  | some i =>
    rw [land_of_flight hk]
    refine ⟨?_, Engine.complete_filters⟩
    rcases Engine.complete_cases t.engine i reply with ⟨-, hr⟩ | ⟨-, f, -, hr⟩ | ⟨hg, p, -, hr⟩
    · rw [hr]
    · rw [hr]
      rfl
    · have hsearch := (hc.current i (flight?_some hk).1 hg).isSearch
      rw [listing?, completion?, hk, Option.map_some, hr] at h
      simp [Engine.reportOn, hsearch, ha] at h

theorem step_keeps_listing {x : Event} (hc : Coherent config t)
    (ha : t.engine.filters.active = []) (h : ¬Disturbs t x) :
    (step config t x).engine.cursor = t.engine.cursor ∧
      (step config t x).engine.filters = t.engine.filters := by
  cases x with
  | select target =>
    have ht : t.engine.target = some target := by
      simpa [Disturbs] using h
    simp [step, Engine.selectTarget, ht]
  | filter f =>
    have hf : t.engine.filters = f := by
      simpa [Disturbs] using h
    simp [step, Engine.setFilters, hf]
  | restart => exact absurd trivial h
  | issue =>
    cases ht : t.engine.target with
    | none => simp [step, depart_of_no_target ht]
    | some target => simp [step, depart_of_target ht, Engine.departed, ha]
  | land k reply => exact land_keeps_listing hc ha (by simpa [Disturbs] using h)
  | displayPage n => exact ⟨rfl, rfl⟩
  | displayPageSize n => exact ⟨rfl, rfl⟩

theorem run_keeps_listing {xs : List Event} (hc : Coherent config t)
    (ha : t.engine.filters.active = []) (h : Undisturbed config t xs) :
    (run config t xs).engine.cursor = t.engine.cursor ∧
      (run config t xs).engine.filters = t.engine.filters := by
  induction xs generalizing t with
  | nil => exact ⟨rfl, rfl⟩
  | cons x xs ih =>
    obtain ⟨hcursor, hfilters⟩ := step_keeps_listing hc ha h.1
    have ha' : (step config t x).engine.filters.active = [] := by rw [hfilters, ha]
    obtain ⟨hcursor', hfilters'⟩ := ih (hc.step x) ha' h.2
    rw [run_cons]
    exact ⟨hcursor'.trans hcursor, hfilters'.trans hfilters⟩

theorem issued_after_land {i j : Issued} {xs : List Event} (ho : Ordered t)
    (hi : i.ticket.generation = t.engine.store.generation)
    (hj : j ∈ (run config (t.land i.ticket reply) xs).flights)
    (hg : j.ticket.generation =
      (run config (t.land i.ticket reply) xs).engine.store.generation) :
    ∃ ys zs e, xs = ys ++ .issue :: zs ∧
      (run config (t.land i.ticket reply) ys).engine.issue config = .ok (j, e) := by
  rcases mem_flights_run hj with hmem | hissued
  · obtain ⟨hflight, hne⟩ := mem_land_flights.1 hmem
    have hle := ho.bounded j hflight
    have hrun := generation_le_run config (t.land i.ticket reply) xs
    rw [land_generation] at hrun
    have hsame : j.ticket.generation = i.ticket.generation := by omega
    exact absurd (Ticket.mk.injEq _ _ ▸ hsame) hne
  · exact hissued

/-- Of two pages of a listing that are applied one after the other, the second was issued after the
first was applied. It was asked for after the first one's last record if the first was a full page
and that record can be continued after, and from the beginning otherwise. -/
theorem listing_continues {past between : List Event} {a b : Issued} {ra rb : Reply} {A B : Report}
    (ha : (after config past).flight? a.ticket = some a)
    (hA : (after config past).listing? a.ticket ra = some A)
    (hcalm : Undisturbed config (after config (past ++ [.land a.ticket ra])) between)
    (hb : (after config (past ++ .land a.ticket ra :: between)).flight? b.ticket = some b)
    (hB : (after config (past ++ .land a.ticket ra :: between)).listing? b.ticket rb = some B) :
    (∃ early late e, between = early ++ .issue :: late ∧
      (after config (past ++ .land a.ticket ra :: early)).engine.issue config = .ok (b, e)) ∧
    ∃ p, Engine.payloadOf a.query ra = .ok p ∧ A.page.records = p.records ∧
      (∀ last, Continues a.query p last →
        Listing config.endpoints b.request (some last.id) config.options.fetchPageSize) ∧
      ((¬∃ last, Continues a.query p last) →
        Listing config.endpoints b.request none config.options.fetchPageSize) ∧
      (A.hasMore = true ↔ ∃ last, Continues a.query p last) := by
  obtain ⟨hga, hlisting, p, hp, rfl, htaken⟩ := listing?_some ha hA
  obtain ⟨hgb, -⟩ := listing?_some hb hB
  have hfits := (after_coherent config past).current a (flight?_some ha).1 hga
  have hunfiltered := hfits.unfiltered hlisting
  rw [after_append_cons, step_land] at hb hgb
  rw [after_concat, step_land] at hcalm
  obtain ⟨early, late, e, rfl, hissue⟩ :=
    issued_after_land (after_ordered config past) hga (flight?_some hb).1 hgb
  have hcoherent : Coherent config ((after config past).land a.ticket ra) :=
    (after_coherent config past).step (.land a.ticket ra)
  have hunfiltered' : ((after config past).land a.ticket ra).engine.filters.active = [] := by
    rw [htaken]
    exact hunfiltered
  obtain ⟨hcursor, hfilters⟩ :=
    run_keeps_listing hcoherent hunfiltered' (undisturbed_append hcalm)
  have hplace : ((after config past).land a.ticket ra).engine.cursor =
      .ofPage p.records p.itemCount a.query.limit.toNat := by
    rw [htaken]
    simp [Engine.taking, Engine.nextCursor, hlisting]
  refine ⟨⟨early, late, e, rfl, by rw [after_append_cons]; exact hissue⟩, ?_⟩
  have hasked := Engine.issue_listing hissue (hfilters ▸ hunfiltered')
  rw [hcursor, hplace] at hasked
  refine ⟨p, hp, rfl, ?_, ?_, Engine.reportOn_hasMore hlisting⟩
  · intro last hlast
    rwa [Engine.ofPage_of_continues hlast] at hasked
  · intro hlast
    rwa [Engine.ofPage_of_not_continues hlast] at hasked

def Sample.troubled : List Event :=
  [.land ⟨2⟩ (Sample.answer ["x", "y"]), .issue, .land ⟨4⟩ (.timeout 5), .issue]

def Sample.resumed (k : Ticket) : Traffic :=
  after Sample.config
    (Sample.overlapping ++ .land k (Sample.answer ["a", "b"]) :: Sample.troubled)

theorem listing_resumed_after_trouble :
    ∃ b, (Sample.resumed ⟨3⟩).flight? ⟨5⟩ = some b ∧
      Listing Sample.config.endpoints b.request (some "b") 2 := by
  have ha : ((after Sample.config Sample.overlapping).flight? ⟨3⟩).isSome := by
    decide +kernel
  have hA : ((after Sample.config Sample.overlapping).listing? ⟨3⟩
      (Sample.answer ["a", "b"])).any (fun r => r.hasMore &&
        r.page.records.getLast?.any (·.id = "b")) := by
    decide +kernel
  have hcalm : Undisturbed Sample.config (after Sample.config
      (Sample.overlapping ++ [.land ⟨3⟩ (Sample.answer ["a", "b"])])) Sample.troubled := by
    decide +kernel
  have hb : ((Sample.resumed ⟨3⟩).flight? ⟨5⟩).isSome := by
    decide +kernel
  have hB : ((Sample.resumed ⟨3⟩).listing? ⟨5⟩ (Sample.answer ["c"])).isSome := by
    decide +kernel
  obtain ⟨a, ha⟩ := Option.isSome_iff_exists.1 ha
  obtain ⟨b, hb⟩ := Option.isSome_iff_exists.1 hb
  obtain ⟨A, hA, hmore⟩ := (Option.any_eq_true _ _).1 hA
  obtain ⟨B, hB⟩ := Option.isSome_iff_exists.1 hB
  have hka : a.ticket = ⟨3⟩ := (flight?_some ha).2
  have hkb : b.ticket = ⟨5⟩ := (flight?_some hb).2
  refine ⟨b, hb, ?_⟩
  rw [← hka] at ha hA hcalm hb hB
  rw [← hkb] at hb hB
  obtain ⟨-, p, -, hrecords, hafter, -, hcontinues⟩ := listing_continues ha hA hcalm hb hB
  rw [Bool.and_eq_true] at hmore
  obtain ⟨last, hlast⟩ := hcontinues.1 hmore.1
  have hid : last.id = "b" := by
    have hb := hmore.2
    rw [hrecords, hlast.1] at hb
    simpa using hb
  exact hid ▸ hafter last hlast

end ClusterConsole.Traffic
