import ClusterConsole.Objects.Session
import ClusterConsole.Proofs.Traffic.Coherence
import ClusterConsole.Proofs.Traffic.Supersession

/-!
# Failed fetches

A fetch that departs changes the generation alone, and one that fails the last error alone. What the
next request is made of stays, so a fetch that failed is repeated by the next one.
-/

namespace ClusterConsole

open Backend (Failure Reply)

inductive Backend.Reply.Unusable : Reply → Prop where
  | transport (f : Transport.Failure) : Unusable (.failure f)
  | timeout (millis : Nat) : Unusable (.timeout millis)
  | status {r : Http.Response} (h : ¬(200 ≤ r.status ∧ r.status < 300)) : Unusable (.response r)
  | notJson {r : Http.Response} {f : Transport.Failure} (h : r.json = .error f) :
    Unusable (.response r)
  | unsuccessful {r : Http.Response} {body : Json.Value} (h : r.json = .ok body)
    (hs : body.field? "success" ≠ some (.bool true)) : Unusable (.response r)

namespace Engine

variable {config : Config} {e e' : Engine} {i : Issued} {reply : Reply}

theorem payloadOf_unusable (h : reply.Unusable) (q : Query) :
    ∃ f, payloadOf q reply = .error f := by
  cases hp : payloadOf q reply with
  | error f => exact ⟨f, rfl⟩
  | ok p =>
    obtain ⟨r, body, rfl, hopen, -⟩ := payloadOf_opens hp
    obtain ⟨hstatus, hjson, hsuccess⟩ := Backend.openEnvelope_eq_ok.1 hopen
    cases h with
    | status hs => exact absurd (by simpa [Http.Response.isSuccess] using hstatus) hs
    | notJson hj =>
      rw [hj] at hjson
      cases hjson
    | unsuccessful hj hs =>
      rw [hj] at hjson
      cases hjson
      exact absurd hsuccess hs

structure SamePlace (e e' : Engine) : Prop where
  target : e'.target = e.target
  filters : e'.filters = e.filters
  cursor : e'.cursor = e.cursor

theorem SamePlace.refl (e : Engine) : SamePlace e e := ⟨rfl, rfl, rfl⟩

theorem SamePlace.trans {e'' : Engine} (h : SamePlace e e') (h' : SamePlace e' e'') :
    SamePlace e e'' :=
  ⟨h'.target.trans h.target, h'.filters.trans h.filters, h'.cursor.trans h.cursor⟩

theorem SamePlace.request (h : SamePlace e e') (target : Target) :
    (e'.fetchFor config target).request = (e.fetchFor config target).request := by
  simp [fetchFor, query, h.filters, h.cursor]

end Engine

namespace Traffic

open Engine (Config Issued SamePlace)

variable {config : Config} {t : Traffic} {reply : Reply}

theorem Coherent.departed (h : Coherent config t) :
    t.engine.departed = { t.engine with store := t.engine.store.invalidate } := by
  by_cases ha : t.engine.filters.active = []
  · simp [Engine.departed, ha]
  · simp [Engine.departed, h.cursor_start ha]

theorem samePlace_step {x : Event} (hs : ¬Supersedes t.engine x) (hr : x ≠ .restart)
    (hx : ∀ r, x ≠ .land ⟨t.engine.store.generation⟩ r) :
    SamePlace t.engine (step config t x).engine := by
  cases x with
  | select target =>
    have ht : t.engine.target = some target := by simpa [Supersedes] using hs
    simpa [step, Engine.selectTarget, ht] using SamePlace.refl t.engine
  | filter f =>
    have hf : t.engine.filters = f := by simpa [Supersedes] using hs
    simpa [step, Engine.setFilters, hf] using SamePlace.refl t.engine
  | restart => exact absurd rfl hr
  | issue =>
    have ht : t.engine.target = none := by simpa [Supersedes] using hs
    rw [step_issue, depart_of_no_target ht]
    exact .refl _
  | land k reply =>
    cases hk : t.flight? k with
    | none =>
      rw [step_land, land_of_none hk]
      exact .refl _
    | some i =>
      have hold : i.ticket.generation ≠ t.engine.store.generation := by
        intro hg
        exact hx reply (by rw [← (flight?_some hk).2, ← hg])
      rw [step_land, land_of_flight hk, Engine.complete_of_stale hold]
      exact .refl _
  | displayPage n => exact ⟨rfl, rfl, rfl⟩
  | displayPageSize n => exact ⟨rfl, rfl, rfl⟩

theorem samePlace_run {xs : List Event} (hs : ¬Superseded config t xs) (hr : .restart ∉ xs)
    (hx : ∀ r, .land ⟨t.engine.store.generation⟩ r ∉ xs) :
    SamePlace t.engine (run config t xs).engine := by
  induction xs generalizing t with
  | nil => exact .refl _
  | cons x xs ih =>
    rw [Superseded, not_or] at hs
    -- The generation stays, so it is the same fetch that must not land in the tail.
    have hgeneration : (step config t x).engine.store.generation = t.engine.store.generation := by
      rw [generation_step, if_neg hs.1, Nat.add_zero]
    have hstep : SamePlace t.engine (step config t x).engine :=
      samePlace_step hs.1 (fun h => hr (h ▸ .head _)) (fun r h => hx r (h ▸ .head _))
    refine hstep.trans (ih hs.2 (fun h => hr (.tail _ h)) ?_)
    intro r h
    rw [hgeneration] at h
    exact hx r (.tail _ h)

theorem not_superseded_of_current {past later : List Event} {i : Issued} {e : Engine}
    (hissue : (after config past).engine.issue config = .ok (i, e))
    (hcurrent : (after config (past ++ .issue :: later)).engine.store.isCurrent i.ticket) :
    ¬Superseded config (step config (after config past) .issue) later := by
  have hgeneration : i.ticket.generation =
      (after config (past ++ .issue :: later)).engine.store.generation := by
    simpa [Store.isCurrent] using hcurrent
  rw [← generation_run_eq_iff, ← after_append_cons, ← hgeneration, issue_generation hissue]

/-- While a fetch is current and neither completed nor refreshed, what it was made of stays. -/
theorem samePlace_of_current {past later : List Event} {i : Issued} {e : Engine}
    (hissue : (after config past).engine.issue config = .ok (i, e)) (hrefresh : .restart ∉ later)
    (hfirst : ∀ r, .land i.ticket r ∉ later)
    (hcurrent : (after config (past ++ .issue :: later)).engine.store.isCurrent i.ticket) :
    SamePlace (after config past).engine (after config (past ++ .issue :: later)).engine := by
  obtain ⟨target, htarget, -, -⟩ := Engine.issue_eq_ok.1 hissue
  have hdeparted :
      SamePlace (after config past).engine (step config (after config past) .issue).engine := by
    rw [step_issue, depart_of_target htarget, (after_coherent config past).departed]
    exact ⟨rfl, rfl, rfl⟩
  rw [after_append_cons]
  refine hdeparted.trans (samePlace_run (not_superseded_of_current hissue hcurrent) hrefresh ?_)
  rw [← issue_generation hissue]
  exact hfirst

theorem land_unusable {i : Issued} (hi : t.flight? i.ticket = some i)
    (hcurrent : t.engine.store.isCurrent i.ticket) (h : reply.Unusable) :
    ∃ f, t.completion? i.ticket reply = some (.failed f) ∧
      (t.land i.ticket reply).engine = t.engine.noting f := by
  obtain ⟨f, hf⟩ := Engine.payloadOf_unusable h i.query
  have hg : i.ticket.generation = t.engine.store.generation := by
    simpa [Store.isCurrent] using hcurrent
  refine ⟨f, ?_, ?_⟩
  · rw [completion?, hi, Option.map_some, Engine.complete_of_failure hg hf]
  · rw [land_of_flight hi, Engine.complete_of_failure hg hf]

/-- Without a target nothing is sent and nothing changes. With one, a departure changes the
generation alone, and an unusable reply to a fetch that is still current gives its failure and
changes the last error alone. The next fetch then sends the same request, if there was no refresh in
between. -/
theorem failed_fetch_repeats (config : Config) (past : List Event) :
    (∀ (s : Session) (name : String), s.engine.target = none →
      s.step (.issue name) = ⟨s, [(name, .failed .noTarget)], []⟩) ∧
    ∀ target, (after config past).engine.target = some target →
      let e := (after config past).engine
      ∃ i, e.issue config = .ok (i,
          { e with store := { e.store with generation := e.store.generation + 1 } }) ∧
        ∀ (later : List Event) (reply : Reply), (∀ r, .land i.ticket r ∉ later) →
          let t := after config (past ++ .issue :: later)
          let e' := (after config (past ++ .issue :: later ++ [.land i.ticket reply])).engine
          t.engine.store.isCurrent i.ticket → reply.Unusable →
          ∃ f, t.completion? i.ticket reply = some (.failed f) ∧
            e' = { t.engine with store := { t.engine.store with lastError := some f.message } } ∧
            (.restart ∉ later →
              ∃ j e'', e'.issue config = .ok (j, e'') ∧ j.request = i.request) := by
  refine ⟨?_, ?_⟩
  · intro s name hs
    rw [Session.step, Session.issue, Engine.issue_of_no_target hs]
  · intro target htarget e
    have hissue : e.issue config =
        .ok (e.fetchFor config target, { e with store := e.store.invalidate }) := by
      rw [Engine.issue_of_target htarget, (after_coherent config past).departed]
    refine ⟨e.fetchFor config target, hissue, ?_⟩
    intro later reply hfirst t e' hcurrent hreply
    obtain ⟨f, hcompletion, hengine⟩ :=
      land_unusable (flight?_issued past hissue hfirst) hcurrent hreply
    have hfailed : e' = t.engine.noting f := by
      rw [← hengine, ← step_land, ← after_concat]
    refine ⟨f, hcompletion, hfailed, ?_⟩
    intro hrefresh
    have hsame : SamePlace e e' := by
      rw [hfailed]
      exact (samePlace_of_current hissue hrefresh hfirst hcurrent).trans ⟨rfl, rfl, rfl⟩
    exact ⟨e'.fetchFor config target, e'.departed,
      Engine.issue_of_target (hsame.target.trans htarget), hsame.request target⟩

theorem second_page_repeated :
    ((Session.new Sample.config).step (.issue "a")).requests = [] ∧
    ∃ (i j : Issued) (f : Failure) (e : Engine), i.ticket = ⟨3⟩ ∧
      (after Sample.config (Sample.listed ++ .issue :: [.displayPage 2])).completion? i.ticket
        (.response (.make 500 "" [] "")) = some (.failed f) ∧
      (after Sample.config (Sample.listed ++ .issue :: [.displayPage 2] ++
        [.land i.ticket (.response (.make 500 "" [] ""))])).engine.issue Sample.config =
          .ok (j, e) ∧
      j.request = i.request := by
  obtain ⟨hnone, hsome⟩ := failed_fetch_repeats Sample.config Sample.listed
  have hidle := hnone (Session.new Sample.config) "a" rfl
  have htarget : (after Sample.config Sample.listed).engine.target = some Sample.target := by
    decide +kernel
  obtain ⟨i, hissue, hfails⟩ := hsome Sample.target htarget
  have hticket : i.ticket = ⟨3⟩ := by
    have hgeneration := issue_generation hissue
    have hthree : (step Sample.config (after Sample.config Sample.listed)
        .issue).engine.store.generation = 3 := by decide +kernel
    rw [hthree] at hgeneration
    rw [← hgeneration]
  have hcurrent : (after Sample.config (Sample.listed ++
      .issue :: [.displayPage 2])).engine.store.isCurrent i.ticket := by
    rw [hticket]
    decide +kernel
  have hreply : (Reply.response (.make 500 "" [] "")).Unusable := .status (by decide)
  obtain ⟨f, hcompletion, -, hrepeat⟩ :=
    hfails [.displayPage 2] (.response (.make 500 "" [] "")) (by simp) hcurrent hreply
  obtain ⟨j, e, hnext, hrequest⟩ := hrepeat (by simp)
  refine ⟨?_, i, j, f, e, hticket, hcompletion, hnext, hrequest⟩
  rw [hidle]

end Traffic

end ClusterConsole
