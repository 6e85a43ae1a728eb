import ClusterConsole.Proofs.Page.Window
import ClusterConsole.Proofs.Traffic.Coherence
import ClusterConsole.Proofs.Traffic.Supersession

/-!
# Options in effect

An engine is made with options and tells them to whoever asks. Every request asks for as many
objects as it tells, and a page is full when it has so many. The rows of a display page are as many
as it tells unless it was made with none: then it tells none and shows one.
-/

namespace ClusterConsole

open Backend (Reply)

theorem max_one_eq_self_iff (a : UInt64) : max a 1 = a ↔ a ≠ 0 := by
  have hone : (1 : UInt64).toNat = 1 := rfl
  rw [← UInt64.toNat_inj, toNat_max, ne_eq, ← toNat_eq_zero_iff, hone]
  omega

namespace Http.Request

def AsksFor (r : Request) (limit : UInt64) : Prop :=
  ∃ body, r.jsonBody? = some body ∧ body.field? "limit" = some (.number (.natural limit))

end Http.Request

/-- As many items as were asked for, the last of them an object with an id of the backend's. -/
def Payload.Full (limit : UInt64) (p : Payload) : Prop :=
  p.itemCount = limit.toNat ∧ ∃ last, p.records.getLast? = some last ∧ last.hasBackendId = true

namespace Engine

variable {config : Config} {e : Engine} {i : Issued} {reply : Reply}

theorem complete_pageSize :
    (e.complete i reply).2.store.page.pageSize = e.store.page.pageSize := by
  rcases complete_cases e i reply with ⟨-, hc⟩ | ⟨-, f, -, hc⟩ | ⟨-, p, -, hc⟩ <;> rw [hc] <;> rfl

theorem issue_asksFor {e' : Engine} (h : e.issue config = .ok (i, e')) :
    i.request.AsksFor config.options.fetchPageSize := by
  obtain ⟨target, -, rfl, -⟩ := issue_eq_ok.1 h
  exact ⟨_, Query.jsonBody?_toRequest _ _ _, Query.body_limit _ _⟩

theorem Fits.full_iff (h : Fits config e i) {p : Payload} :
    p.Full config.options.fetchPageSize ↔ ∃ last, Continues i.query p last := by
  rw [Payload.Full, ← h.limit_eq]
  constructor
  · rintro ⟨hcount, last, hlast, hbackend⟩
    exact ⟨last, hlast, hcount, hbackend⟩
  · rintro ⟨last, hlast, hcount, hbackend⟩
    exact ⟨hcount, last, hlast, hbackend⟩

end Engine

namespace Traffic

open Engine (Config Options Issued Report payloadOf)

variable {config : Config} {t : Traffic} {k : Ticket} {reply : Reply}

theorem pageSize_step {x : Event} (h : ∀ n, x ≠ .displayPageSize n) :
    (step config t x).engine.store.page.pageSize = t.engine.store.page.pageSize := by
  cases x with
  | select target =>
    by_cases ht : t.engine.target = some target <;>
      simp [step, Engine.selectTarget, ht, Store.clear]
  | filter f =>
    by_cases hf : t.engine.filters = f <;>
      simp [step, Engine.setFilters, hf, Store.invalidate]
  | restart => rfl
  | issue =>
    cases ht : t.engine.target with
    | none => rw [step_issue, depart_of_no_target ht]
    | some target =>
      rw [step_issue, depart_of_target ht]
      rfl
  | land k reply =>
    cases hk : t.flight? k with
    | none => rw [step_land, land_of_none hk]
    | some i =>
      rw [step_land, land_of_flight hk]
      exact Engine.complete_pageSize
  | displayPage n => rfl
  | displayPageSize n => exact absurd rfl (h n)

theorem pageSize_run {xs : List Event} (h : ∀ n, .displayPageSize n ∉ xs) :
    (run config t xs).engine.store.page.pageSize = t.engine.store.page.pageSize := by
  induction xs generalizing t with
  | nil => rfl
  | cons x xs ih =>
    have hx : ∀ n, x ≠ .displayPageSize n := fun n hn => h n (hn ▸ .head _)
    have hxs : ∀ n, .displayPageSize n ∉ xs := fun n hn => h n (.tail _ hn)
    rw [run_cons, ih hxs, pageSize_step hx]

theorem pageSize_after {xs : List Event} (h : ∀ n, .displayPageSize n ∉ xs) :
    (after config xs).engine.store.page.pageSize = max config.options.displayPageSize 1 :=
  pageSize_run h

theorem completion?_applied {i : Issued} {report : Report} (ht : Ordered t) (hi : i ∈ t.flights)
    (h : t.completion? i.ticket reply = some (.applied report)) :
    i.ticket.generation = t.engine.store.generation ∧
      ∃ p, payloadOf i.query reply = .ok p ∧ report = t.engine.reportOn i.query p := by
  rw [completion?, ht.flight?_of_mem hi, Option.map_some, Option.some.injEq] at h
  obtain ⟨hg, p, hp, hreport, -⟩ := Engine.complete_applied h
  exact ⟨hg, p, hp, hreport⟩

theorem hasMore_iff_full {i : Issued} {report : Report} (ht : Coherent config t)
    (hi : i ∈ t.flights) (h : t.completion? i.ticket reply = some (.applied report)) :
    ∃ p, payloadOf i.query reply = .ok p ∧
      (report.hasMore = true ↔
        report.searchMode = false ∧ p.Full config.options.fetchPageSize) := by
  obtain ⟨hg, p, hp, rfl⟩ := completion?_applied ht.ordered hi h
  refine ⟨p, hp, ?_⟩
  have hmode : (t.engine.reportOn i.query p).searchMode = i.query.mode.isSearch := rfl
  rw [hmode]
  cases hsearch : i.query.mode.isSearch with
  | true =>
    have hstart := ht.search_ends hi hg hsearch
    simp [Engine.reportOn, Engine.nextCursor, hsearch, hstart, Cursor.isPositioned]
  | false =>
    rw [Engine.reportOn_hasMore hsearch, ← (ht.current i hi hg).full_iff, eq_self, true_and]

open Backend (Endpoints) in
/-- An engine is made with any options, zeros among them. Every request asks for as many objects as
the engine tells, and a page of a listing is full when it has so many. Until it is told another
size, its display pages have as many rows as it was made with, but one at least; so they have as
many as it tells exactly if it was not made with none. -/
theorem options_in_effect_iff (endpoints : Endpoints) (options : Options) :
    let config := Config.make endpoints options
    (∀ past i e, (after config past).engine.issue config = .ok (i, e) →
      i.request.AsksFor config.options.fetchPageSize) ∧
    (∀ past, ∀ i ∈ (after config past).flights, ∀ reply report,
      (after config past).completion? i.ticket reply = some (.applied report) →
      ∃ p, payloadOf i.query reply = .ok p ∧ (report.hasMore = true ↔
        report.searchMode = false ∧ p.Full config.options.fetchPageSize)) ∧
    (∀ events, (∀ n, .displayPageSize n ∉ events) →
      (after config events).engine.store.page.pageSize = max config.options.displayPageSize 1) ∧
    ((∀ events, (∀ n, .displayPageSize n ∉ events) →
      (after config events).engine.store.page.pageSize = config.options.displayPageSize) ↔
      options.displayPageSize ≠ 0) := by
  intro config
  refine ⟨fun past i e => Engine.issue_asksFor, ?_, fun events => pageSize_after, ?_⟩
  · intro past i hi reply report
    exact hasMore_iff_full (after_coherent config past) hi
  · rw [← max_one_eq_self_iff options.displayPageSize]
    constructor
    · intro htold
      have hmade : (after config []).engine.store.page.pageSize =
          max config.options.displayPageSize 1 := pageSize_after fun n => List.not_mem_nil
      exact hmade.symm.trans (htold [] fun n => List.not_mem_nil)
    · intro hmax events hsize
      exact (pageSize_after hsize).trans hmax

def Sample.continues : Option Engine.Completion → Bool
  | some (.applied report) => report.hasMore
  | _ => false

theorem Sample.applied_of_continues {c : Option Engine.Completion}
    (h : Sample.continues c = true) :
    ∃ report, c = some (.applied report) ∧ report.hasMore = true := by
  match c, h with
  | some (.applied report), h => exact ⟨report, rfl, h⟩

theorem two_objects_asked_for :
    Sample.fetch.request.AsksFor 2 ∧
    (∃ report p, (after Sample.config (Sample.selected ++ [.issue])).completion? Sample.fetch.ticket
        (Sample.answer ["a", "b"]) = some (.applied report) ∧
      payloadOf Sample.fetch.query (Sample.answer ["a", "b"]) = .ok p ∧ p.Full 2) ∧
    (after Sample.config (Sample.listed ++ [.restart])).engine.store.page.pageSize = 10 := by
  obtain ⟨hasks, hfull, hsize, -⟩ := options_in_effect_iff Sample.config.endpoints ⟨2, 10, some 5⟩
  have hflight : Sample.fetch ∈ (after Sample.config (Sample.selected ++ [.issue])).flights :=
    .head _
  have hmore : Sample.continues ((after Sample.config (Sample.selected ++ [.issue])).completion?
      Sample.fetch.ticket (Sample.answer ["a", "b"])) = true := by
    decide +kernel
  have hkept : ∀ n, Event.displayPageSize n ∉ Sample.listed ++ [.restart] := by
    simp [Sample.listed]
  obtain ⟨report, happlied, hhasMore⟩ := Sample.applied_of_continues hmore
  obtain ⟨p, hp, hiff⟩ := hfull _ _ hflight _ _ happlied
  exact ⟨hasks _ _ _ Sample.fetch_issued, ⟨report, p, happlied, hp, (hiff.1 hhasMore).2⟩,
    hsize _ hkept⟩

/-- An engine that is made to show no rows tells so, and has room for one. -/
theorem zero_rows_not_in_effect :
    let config := Config.make Sample.config.endpoints ⟨100, 0, some Engine.defaultTimeout⟩
    config.options.displayPageSize = 0 ∧
      (after config []).engine.store.page.pageSize = 1 := by
  decide

end Traffic

end ClusterConsole
