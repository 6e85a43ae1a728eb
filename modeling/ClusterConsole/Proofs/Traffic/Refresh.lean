import ClusterConsole.Proofs.Listing.Collection
import ClusterConsole.Proofs.Page.Window
import ClusterConsole.Proofs.Traffic.Continuation

/-!
# Refreshes

A refresh takes the listing back to its beginning and then issues a fetch, and other tasks may come
in between. The fetches under way stay current until the second step. Where a page of theirs lands
in the gap, the refresh does not start over: it continues after that page.
-/

namespace ClusterConsole

open Backend (Reply)
open Query (Listing)

theorem Query.Listing.iff_eq {e : Backend.Endpoints} {r : Http.Request}
    {after after' : Option String} {limit : UInt64} (h : Listing e r after limit) :
    Listing e r after' limit ↔ after' = after := by
  refine ⟨?_, fun heq => heq ▸ h⟩
  intro h'
  have hasked := (asked?_of_listing h').symm.trans (asked?_of_listing h)
  simp only [Option.some.injEq, Prod.mk.injEq, and_true] at hasked
  exact hasked

namespace Traffic

open Engine (Config Issued Report)

variable {config : Config} {t : Traffic} {k : Ticket} {reply : Reply} {id : String}

theorem Coherent.run {xs : List Event} (h : Coherent config t) :
    Coherent config (run config t xs) := by
  induction xs generalizing t with
  | nil => exact h
  | cons x xs ih => exact ih (h.step x)

theorem listing?_land {r : Report} (h : t.listing? k reply = some r) :
    (t.land k reply).engine.cursor.isPositioned = r.hasMore ∧
      (t.land k reply).engine.store.page = r.page := by
  cases hi : t.flight? k with
  | none => simp [listing?, completion?, hi] at h
  | some i =>
    obtain ⟨-, -, p, -, rfl, htaken⟩ := listing?_some hi h
    rw [htaken]
    exact ⟨rfl, rfl⟩

theorem listing?_unfiltered {r : Report} (hc : Coherent config t)
    (h : t.listing? k reply = some r) : t.engine.filters.active = [] := by
  cases hi : t.flight? k with
  | none => simp [listing?, completion?, hi] at h
  | some i =>
    obtain ⟨hg, hlisting, -⟩ := listing?_some hi h
    exact (hc.current i (flight?_some hi).1 hg).unfiltered hlisting

theorem land_filters : (t.land k reply).engine.filters = t.engine.filters := by
  cases hk : t.flight? k with
  | none => rw [land_of_none hk]
  | some i =>
    rw [land_of_flight hk]
    exact Engine.complete_filters

/-- The last of the events that moved the listing is a page that goes on after the id. -/
def Resumes (config : Config) (t : Traffic) (xs : List Event) (id : String) : Prop :=
  ∃ early k reply report late, xs = early ++ .land k reply :: late ∧
    (run config t early).listing? k reply = some report ∧ report.hasMore = true ∧
    report.page.records.getLast?.map (·.id) = some id ∧
    Undisturbed config ((run config t early).land k reply) late

theorem cursor_step {x : Event} (hc : Coherent config t)
    (h : (step config t x).engine.cursor = .after id) :
    (¬Disturbs t x ∧ t.engine.cursor = .after id) ∨
    ∃ k reply report, x = .land k reply ∧ t.listing? k reply = some report ∧
      report.hasMore = true ∧ report.page.records.getLast?.map (·.id) = some id := by
  have hstands := (hc.step x).positioned id h
  cases x with
  | select target =>
    by_cases ht : t.engine.target = some target
    · exact .inl ⟨fun hd => hd ht, by simpa [step, Engine.selectTarget, ht] using h⟩
    · simp [step, Engine.selectTarget, ht] at h
  | filter f =>
    by_cases hf : t.engine.filters = f
    · exact .inl ⟨fun hd => hd hf, by simpa [step, Engine.setFilters, hf] using h⟩
    · simp [step, Engine.setFilters, hf] at h
  | restart => cases h
  | issue =>
    refine .inl ⟨fun hd => hd, ?_⟩
    cases ht : t.engine.target with
    | none => rwa [step_issue, depart_of_no_target ht] at h
    | some target =>
      rw [step_issue, depart_of_target ht] at h
      by_cases ha : t.engine.filters.active.isEmpty
      · simpa [Engine.departed, ha] using h
      · simp [Engine.departed, ha] at h
  | land k reply =>
    cases hl : t.listing? k reply with
    | some report =>
      obtain ⟨hmore, hpage⟩ := listing?_land hl
      refine .inr ⟨k, reply, report, rfl, hl, ?_, ?_⟩
      · have hlanded : (t.land k reply).engine.cursor = .after id := h
        rw [← hmore, hlanded]
        rfl
      · rw [← hpage]
        exact hstands.last
    | none =>
      have ha : t.engine.filters.active = [] := by
        have hlanded : (t.land k reply).engine.filters.active = [] := hstands.unfiltered
        rwa [land_filters] at hlanded
      refine .inl ⟨by simp [Disturbs, hl], ?_⟩
      rw [← (land_keeps_listing hc ha hl).1]
      exact h
  | displayPage n => exact .inl ⟨fun hd => hd, h⟩
  | displayPageSize n => exact .inl ⟨fun hd => hd, h⟩

theorem cursor_run {xs : List Event} (hc : Coherent config t)
    (h : (run config t xs).engine.cursor = .after id) :
    (Undisturbed config t xs ∧ t.engine.cursor = .after id) ∨ Resumes config t xs id := by
  induction xs generalizing t with
  | nil => exact .inl ⟨trivial, h⟩
  | cons x xs ih =>
    -- A page in the tail is later than the head, so the tail is asked first.
    rcases ih (hc.step x) h with ⟨hcalm, hx⟩ | ⟨early, k, reply, report, late, rfl, hl⟩
    · rcases cursor_step hc hx with ⟨hd, hid⟩ | ⟨k, reply, report, rfl, hl, hmore, hlast⟩
      · exact .inl ⟨⟨hd, hcalm⟩, hid⟩
      · exact .inr ⟨[], k, reply, report, xs, rfl, hl, hmore, hlast, hcalm⟩
    · exact .inr ⟨x :: early, k, reply, report, late, rfl, hl⟩

theorem Resumes.cursor {xs : List Event} (hc : Coherent config t) (h : Resumes config t xs id) :
    (run config t xs).engine.cursor = .after id := by
  obtain ⟨early, k, reply, report, late, rfl, hl, hmore, hlast, hcalm⟩ := h
  have hc' : Coherent config ((run config t early).land k reply) := hc.run.step (.land k reply)
  obtain ⟨hpositioned, hpage⟩ := listing?_land hl
  have ha : ((run config t early).land k reply).engine.filters.active = [] := by
    rw [land_filters]
    exact listing?_unfiltered hc.run hl
  have hkept : (run config ((run config t early).land k reply) late).engine.cursor =
      ((run config t early).land k reply).engine.cursor := (run_keeps_listing hc' ha hcalm).1
  rw [run_append, run_cons, step_land, hkept]
  cases hcursor : ((run config t early).land k reply).engine.cursor with
  | start =>
    rw [hcursor, hmore] at hpositioned
    cases hpositioned
  | after id' =>
    have hid := (hc'.positioned id' hcursor).last
    rw [hpage, hlast, Option.some.injEq] at hid
    rw [hid]

theorem cursor_run_iff {xs : List Event} (hc : Coherent config t)
    (hstart : t.engine.cursor = .start) :
    (run config t xs).engine.cursor = .after id ↔ Resumes config t xs id := by
  refine ⟨?_, fun h => h.cursor hc⟩
  intro h
  rcases cursor_run hc h with ⟨-, hid⟩ | hresumes
  · rw [hstart] at hid
    cases hid
  · exact hresumes

/-- The listing that a refresh asks for begins at the start, unless a page that goes on landed
between its two steps and nothing moved the listing since. Then it begins after the last record of
that page. -/
theorem refresh_starts_over_iff {past between : List Event} {i : Issued} {e : Engine}
    (hissue : (after config (past ++ .restart :: between)).engine.issue config = .ok (i, e))
    (hlisting : i.query.mode.isSearch = false) :
    (Listing config.endpoints i.request none config.options.fetchPageSize ↔
      ∀ id, ¬Resumes config (after config (past ++ [.restart])) between id) ∧
    ∀ id, Listing config.endpoints i.request (some id) config.options.fetchPageSize ↔
      Resumes config (after config (past ++ [.restart])) between id := by
  have ha : (after config (past ++ .restart :: between)).engine.filters.active = [] := by
    obtain ⟨target, htarget, rfl, -⟩ := Engine.issue_eq_ok.1 hissue
    have hfits : Engine.Fits config _ _ := Engine.fits_fetchFor htarget
    rw [hfits.isSearch] at hlisting
    simpa using hlisting
  have hasked := Engine.issue_listing hissue ha
  have hresumes : ∀ id, (after config (past ++ .restart :: between)).engine.cursor = .after id ↔
      Resumes config (after config (past ++ [.restart])) between id := by
    intro id
    have hrun : after config (past ++ .restart :: between) =
        run config (after config (past ++ [.restart])) between := by
      rw [after_append_cons, after_concat]
    have hstart : (after config (past ++ [.restart])).engine.cursor = .start := by
      rw [after_concat]
      rfl
    rw [hrun]
    exact cursor_run_iff (after_coherent config _) hstart
  simp only [hasked.iff_eq, ← hresumes]
  cases (after config (past ++ .restart :: between)).engine.cursor with
  | start => simp [Cursor.id?]
  | after id => simp [Cursor.id?, eq_comm]

def Sample.waiting : List Event := [.select Sample.target, .issue]

def Sample.parted (reply : Reply) : List Event := Sample.waiting ++ .restart :: [.land ⟨2⟩ reply]

theorem Sample.listing_issued {e : Engine} (htarget : e.target = some Sample.target)
    (hfilters : e.filters.active = []) :
    ∃ i e', e.issue Sample.config = .ok (i, e') ∧ i.query.mode.isSearch = false := by
  refine ⟨_, _, Engine.issue_of_target htarget, ?_⟩
  rw [(Engine.fits_fetchFor htarget).isSearch, hfilters]
  rfl

theorem refresh_not_from_start :
    ∃ i e, (after Sample.config (Sample.parted (Sample.answer ["a", "b"]))).engine.issue
        Sample.config = .ok (i, e) ∧ i.query.mode.isSearch = false ∧
      Listing Sample.config.endpoints i.request (some "b") 2 ∧
      ¬Listing Sample.config.endpoints i.request none 2 := by
  have htarget : (after Sample.config (Sample.parted (Sample.answer ["a", "b"]))).engine.target =
      some Sample.target := by decide +kernel
  have hfilters : (after Sample.config
      (Sample.parted (Sample.answer ["a", "b"]))).engine.filters.active = [] := by decide +kernel
  have hcursor : (after Sample.config (Sample.parted (Sample.answer ["a", "b"]))).engine.cursor =
      .after "b" := by decide +kernel
  obtain ⟨i, e, hissue, hlisting⟩ := Sample.listing_issued htarget hfilters
  have hasked := Engine.issue_listing hissue hfilters
  rw [hcursor] at hasked
  refine ⟨i, e, hissue, hlisting, hasked, ?_⟩
  intro h
  cases hasked.iff_eq.1 h

theorem refresh_after_failed_page :
    ∃ i e, (after Sample.config (Sample.parted (.timeout 5))).engine.issue Sample.config =
        .ok (i, e) ∧ Listing Sample.config.endpoints i.request none 2 := by
  have htarget : (after Sample.config (Sample.parted (.timeout 5))).engine.target =
      some Sample.target := by decide +kernel
  have hfilters : (after Sample.config
      (Sample.parted (.timeout 5))).engine.filters.active = [] := by decide +kernel
  obtain ⟨i, e, hissue, hlisting⟩ := Sample.listing_issued htarget hfilters
  refine ⟨i, e, hissue, (refresh_starts_over_iff hissue hlisting).1.2 ?_⟩
  have hfailed : ((after Sample.config (Sample.waiting ++ [.restart])).listing? ⟨2⟩
      (.timeout 5)).isSome = false := by decide +kernel
  rintro id ⟨early, k, reply, report, late, hsplit, hl, -⟩
  cases early with
  | cons x early => simp at hsplit
  | nil =>
    cases hsplit
    have hpage : (after Sample.config (Sample.waiting ++ [.restart])).listing? ⟨2⟩ (.timeout 5) =
        some report := hl
    rw [hpage] at hfailed
    cases hfailed

end Traffic

end ClusterConsole
