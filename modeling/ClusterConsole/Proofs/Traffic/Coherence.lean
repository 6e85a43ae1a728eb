import ClusterConsole.Proofs.Traffic.Runs

/-!
# Cursor coherence

A positioned cursor stands at the last record of the page, and only while there is a target and no
predicate is active. Events keep this because the one fetch that is not stale was made for the
target and the filters that are selected still.
-/

namespace ClusterConsole.Engine

variable {config : Config} {e : Engine} {i : Issued} {reply : Backend.Reply}

def Fits (config : Config) (e : Engine) (i : Issued) : Prop :=
  ∃ target after, e.target = some target ∧
    i.query = ⟨target.className, config.options.fetchPageSize, .select e.filters after⟩

structure StandsAt (config : Config) (e : Engine) (id : String) : Prop where
  selected : e.target ≠ none
  unfiltered : e.filters.active = []
  nonempty : e.store.page.records ≠ []
  bounded : e.store.page.records.length ≤ config.options.fetchPageSize.toNat
  last : e.store.page.records.getLast?.map (·.id) = some id
  named : id ≠ ""
  given : id ≠ Record.sentinel

theorem StandsAt.congr {e' : Engine} {id : String} (h : StandsAt config e id)
    (ht : e'.target = e.target) (hf : e'.filters = e.filters)
    (hr : e'.store.page.records = e.store.page.records) : StandsAt config e' id := by
  obtain ⟨hselected, hunfiltered, hnonempty, hbounded, hlast, hnamed, hgiven⟩ := h
  refine ⟨?_, ?_, ?_, ?_, ?_, hnamed, hgiven⟩
  · rwa [ht]
  · rwa [hf]
  · rwa [hr]
  · rwa [hr]
  · rwa [hr]

theorem fits_fetchFor {target : Target} (h : e.target = some target) :
    Fits config e (e.fetchFor config target) :=
  ⟨target, e.cursor.id?, h, rfl⟩

theorem complete_target : (e.complete i reply).2.target = e.target := by
  rcases complete_cases e i reply with ⟨-, hc⟩ | ⟨-, f, -, hc⟩ | ⟨-, p, -, hc⟩ <;> rw [hc] <;> rfl

theorem complete_filters : (e.complete i reply).2.filters = e.filters := by
  rcases complete_cases e i reply with ⟨-, hc⟩ | ⟨-, f, -, hc⟩ | ⟨-, p, -, hc⟩ <;> rw [hc] <;> rfl

theorem Fits.complete {j : Issued} (h : Fits config e j) :
    Fits config (e.complete i reply).2 j := by
  obtain ⟨target, after, ht, hq⟩ := h
  exact ⟨target, after, complete_target.trans ht, by rw [hq, complete_filters]⟩

theorem Fits.isSearch (h : Fits config e i) :
    i.query.mode.isSearch = !e.filters.active.isEmpty := by
  obtain ⟨target, after, -, hq⟩ := h
  rw [hq]
  exact Query.Mode.select_isSearch _ _

theorem Fits.unfiltered (h : Fits config e i) (hlisting : i.query.mode.isSearch = false) :
    e.filters.active = [] := by
  have hsearch := h.isSearch
  rw [hlisting] at hsearch
  simpa using hsearch.symm

theorem Fits.limit_eq (h : Fits config e i) : i.query.limit = config.options.fetchPageSize := by
  obtain ⟨target, after, -, hq⟩ := h
  rw [hq]

theorem standsAt_taking {p : Payload} {id : String} (hfits : Fits config e i)
    (hp : payloadOf i.query reply = .ok p) (hlisting : i.query.mode.isSearch = false)
    (hid : (e.taking i.query p).cursor = .after id) :
    StandsAt config (e.taking i.query p) id := by
  have hcursor : Cursor.ofPage p.records p.itemCount i.query.limit.toNat = .after id := by
    simpa [taking, nextCursor, hlisting] using hid
  obtain ⟨last, hlast, hcount, hbackend, hname⟩ := Cursor.ofPage_eq_after.1 hcursor
  have hunfiltered := hfits.unfiltered hlisting
  have hlimit := hfits.limit_eq
  obtain ⟨target, after, htarget, -⟩ := hfits
  obtain ⟨body, hbody⟩ := payloadOf_eq_ok hp
  have hmem : last ∈ p.records := List.mem_of_getLast? hlast
  have hlength : p.records.length ≤ p.itemCount := by
    rw [hbody]
    exact Payload.records_length_le _ _
  refine ⟨?_, ?_, ?_, ?_, ?_, ?_, ?_⟩
  · intro h
    exact absurd (htarget.symm.trans h) (by simp)
  · exact hunfiltered
  · exact List.ne_nil_of_mem hmem
  · rw [hcount, hlimit] at hlength
    exact hlength
  · change p.records.getLast?.map (·.id) = some id
    rw [hlast, ← hname]
    rfl
  · rw [← hname]
    rw [hbody] at hmem
    exact Payload.record_id_ne_empty hmem
  · rw [← hname]
    simpa [Record.hasBackendId] using hbackend

end ClusterConsole.Engine

namespace ClusterConsole.Traffic

open Backend (Reply)
open Engine (Config Fits Issued StandsAt)

variable {config : Config} {t : Traffic} {k : Ticket} {reply : Reply}

structure Coherent (config : Config) (t : Traffic) : Prop where
  ordered : Ordered t
  current : ∀ i ∈ t.flights, i.ticket.generation = t.engine.store.generation →
    Fits config t.engine i
  positioned : ∀ id, t.engine.cursor = .after id → StandsAt config t.engine id

theorem Coherent.cursor_start (h : Coherent config t) (ha : t.engine.filters.active ≠ []) :
    t.engine.cursor = .start := by
  cases hc : t.engine.cursor with
  | start => rfl
  | after id => exact absurd (h.positioned id hc).unfiltered ha

theorem Coherent.search_ends {i : Issued} (h : Coherent config t) (hi : i ∈ t.flights)
    (hg : i.ticket.generation = t.engine.store.generation)
    (hsearch : i.query.mode.isSearch = true) : t.engine.cursor = .start := by
  refine h.cursor_start ?_
  intro hactive
  have hfits := (h.current i hi hg).isSearch
  rw [hsearch, hactive] at hfits
  cases hfits

theorem coherent_start (config : Config) : Coherent config (start config) := by
  refine ⟨ordered_start config, ?_, ?_⟩
  · intro i hi
    cases hi
  · intro id hid
    cases hid

theorem Coherent.reset (h : Coherent config t) {e : Engine}
    (hg : e.store.generation = t.engine.store.generation + 1) (hc : e.cursor = .start) :
    Coherent config { t with engine := e } := by
  refine ⟨h.ordered.raise (by omega), ?_, ?_⟩
  · intro i hi hk
    have hle := h.ordered.bounded i hi
    rw [hg] at hk
    omega
  · intro id hid
    rw [hc] at hid
    cases hid

theorem Coherent.window (h : Coherent config t) {page : Page}
    (hp : page.records = t.engine.store.page.records) :
    Coherent config
      { t with engine := { t.engine with store := { t.engine.store with page } } } := by
  refine ⟨h.ordered.raise (Nat.le_refl _), h.current, ?_⟩
  intro id hid
  exact (h.positioned id hid).congr rfl rfl hp

theorem Coherent.depart (h : Coherent config t) : Coherent config (t.depart config) := by
  have hordered : Ordered (t.depart config) := h.ordered.depart
  cases ht : t.engine.target with
  | none => rwa [depart_of_no_target ht]
  | some target =>
    rw [depart_of_target ht] at hordered ⊢
    refine ⟨hordered, ?_, ?_⟩
    · intro i hi hk
      rcases List.mem_append.1 hi with hi | hi
      · have hle := h.ordered.bounded i hi
        have hnew : i.ticket.generation = t.engine.store.generation + 1 := hk
        omega
      · rw [List.mem_singleton.1 hi]
        exact Engine.fits_fetchFor ht
    · intro id hid
      by_cases ha : t.engine.filters.active.isEmpty
      · have hid' : t.engine.cursor = .after id := by simpa [Engine.departed, ha] using hid
        exact (h.positioned id hid').congr rfl rfl rfl
      · simp [Engine.departed, ha] at hid

theorem Coherent.land (h : Coherent config t) : Coherent config (t.land k reply) := by
  have hordered : Ordered (t.land k reply) := h.ordered.land
  cases hk : t.flight? k with
  | none => rwa [land_of_none hk]
  | some i =>
    have hi : i ∈ t.flights := (flight?_some hk).1
    rw [land_of_flight hk] at hordered ⊢
    refine ⟨hordered, ?_, ?_⟩
    · intro j hj hg
      rw [Engine.complete_generation] at hg
      exact (h.current j (List.mem_filter.1 hj).1 hg).complete
    · intro id hid
      rcases Engine.complete_cases t.engine i reply with ⟨-, hc⟩ | ⟨-, f, -, hc⟩ | ⟨hg, p, hp, hc⟩
      · rw [hc] at hid ⊢
        exact h.positioned id hid
      · rw [hc] at hid ⊢
        exact (h.positioned id hid).congr rfl rfl rfl
      · rw [hc] at hid ⊢
        have hfits := h.current i hi hg
        cases hsearch : i.query.mode.isSearch with
        | false => exact Engine.standsAt_taking hfits hp hsearch hid
        | true =>
          have hstart := h.search_ends hi hg hsearch
          simp [Engine.taking, Engine.nextCursor, hsearch, hstart] at hid

theorem Coherent.step (h : Coherent config t) (x : Event) :
    Coherent config (step config t x) := by
  cases x with
  | select target =>
    by_cases ht : t.engine.target = some target
    · simpa [Traffic.step, Engine.selectTarget, ht] using h
    · refine h.reset ?_ ?_ <;> simp [Engine.selectTarget, ht, Store.clear, Store.invalidate]
  | filter f =>
    by_cases hf : t.engine.filters = f
    · simpa [Traffic.step, Engine.setFilters, hf] using h
    · refine h.reset ?_ ?_ <;> simp [Engine.setFilters, hf, Store.invalidate]
  | restart =>
    refine ⟨h.ordered.raise (Nat.le_refl _), h.current, ?_⟩
    intro id hid
    cases hid
  | issue => exact h.depart
  | land k reply => exact h.land
  | displayPage n => exact h.window rfl
  | displayPageSize n => exact h.window rfl

theorem after_coherent (config : Config) (events : List Event) :
    Coherent config (after config events) :=
  after_induction config (coherent_start config) (fun _ x h => h.step x) events

/-- After any events, a positioned cursor stands at the last record of a page of the listing, and
while a predicate is active the cursor is at the start. -/
theorem cursor_coherent (config : Config) (events : List Event) :
    (∀ id, (after config events).engine.cursor = .after id →
      StandsAt config (after config events).engine id) ∧
    ((after config events).engine.filters.active ≠ [] →
      (after config events).engine.cursor = .start) := by
  have h := after_coherent config events
  exact ⟨h.positioned, h.cursor_start⟩

def Sample.answer (ids : List String) : Backend.Reply :=
  .response (.make 200 "OK" [] (Json.Value.object [("success", .bool true),
    ("data", .object [("objects", .array (ids.map fun id => .object [("id", .string id)]))])]).text)

def Sample.listed : List Event :=
  [.select Sample.target, .issue, .land ⟨2⟩ (Sample.answer ["a", "b"])]

def Sample.filtered : List Event := Sample.listed ++ [.filter Sample.filters]

theorem cursor_at_last_object :
    ((after Sample.config Sample.listed).engine.cursor = .after "b" ∧
      StandsAt Sample.config (after Sample.config Sample.listed).engine "b") ∧
    (after Sample.config Sample.filtered).engine.filters.active ≠ [] ∧
      (after Sample.config Sample.filtered).engine.cursor = .start := by
  have hcursor : (after Sample.config Sample.listed).engine.cursor = .after "b" := by
    decide +kernel
  have hactive : (after Sample.config Sample.filtered).engine.filters.active ≠ [] := by
    decide +kernel
  exact ⟨⟨hcursor, (cursor_coherent Sample.config Sample.listed).1 "b" hcursor⟩, hactive,
    (cursor_coherent Sample.config Sample.filtered).2 hactive⟩

end ClusterConsole.Traffic
