import ClusterConsole.Proofs.Traffic.Coherence

/-!
# The display window

A page has its records and the window of them that is shown. Moving the window, searching the page
and looking at the engine is all a caller's own affair: two runs that differ in nothing else send
the same requests, see the same come of their fetches, and differ in no part of the engine but the
window.
-/

namespace ClusterConsole

open Backend (Failure Reply)

def Page.withoutWindow (p : Page) : Page := { p with pageIndex := 1, pageSize := 1 }

theorem Page.withoutWindow_eq_iff {p q : Page} :
    p.withoutWindow = q.withoutWindow ↔ p.records = q.records ∧ p.total = q.total := by
  simp [withoutWindow]

theorem Store.rewindow_withoutWindow (old old' : Page) (records : List Record) :
    (rewindow old records).withoutWindow = (rewindow old' records).withoutWindow :=
  Page.withoutWindow_eq_iff.2 ⟨rfl, rfl⟩

def Store.withoutWindow (s : Store) : Store := { s with page := s.page.withoutWindow }

namespace Engine

variable {config : Config} {e : Engine} {i : Issued} {reply : Reply}

def withoutWindow (e : Engine) : Engine := { e with store := e.store.withoutWindow }

theorem withoutWindow_eq_iff {e' : Engine} :
    e.withoutWindow = e'.withoutWindow ↔
      e.target = e'.target ∧ e.filters = e'.filters ∧ e.cursor = e'.cursor ∧
        (e.store.page.records = e'.store.page.records ∧
          e.store.page.total = e'.store.page.total) ∧
        e.store.generation = e'.store.generation ∧ e.store.lastError = e'.store.lastError := by
  simp [withoutWindow, Store.withoutWindow, Page.withoutWindow_eq_iff]

def Completion.withoutWindow : Completion → Completion
  | .applied report => .applied { report with page := report.page.withoutWindow }
  | .stale => .stale
  | .failed failure => .failed failure

theorem selectTarget_withoutWindow (e : Engine) (target : Target) :
    (e.withoutWindow.selectTarget target).withoutWindow =
      (e.selectTarget target).withoutWindow := by
  have htarget : e.withoutWindow.target = e.target := rfl
  rw [selectTarget, selectTarget, htarget]
  split <;> rfl

theorem setFilters_withoutWindow (e : Engine) (f : FilterSet) :
    (e.withoutWindow.setFilters f).withoutWindow = (e.setFilters f).withoutWindow := by
  have hfilters : e.withoutWindow.filters = e.filters := rfl
  rw [setFilters, setFilters, hfilters]
  split <;> rfl

theorem searchLocal_withoutWindow (e : Engine) (query : String) :
    e.withoutWindow.searchLocal query = e.searchLocal query := rfl

theorem complete_withoutWindow (e : Engine) (i : Issued) (reply : Reply) :
    (e.withoutWindow.complete i reply).1.withoutWindow = (e.complete i reply).1.withoutWindow ∧
      (e.withoutWindow.complete i reply).2.withoutWindow =
        (e.complete i reply).2.withoutWindow := by
  have hgeneration : e.withoutWindow.store.generation = e.store.generation := rfl
  rcases complete_cases e i reply with ⟨hg, hc⟩ | ⟨hg, f, hf, hc⟩ | ⟨hg, p, hp, hc⟩
  · rw [← hgeneration] at hg
    rw [hc, complete_of_stale hg]
    exact ⟨rfl, rfl⟩
  · rw [← hgeneration] at hg
    rw [hc, complete_of_failure hg hf]
    exact ⟨rfl, rfl⟩
  · rw [← hgeneration] at hg
    have hpage := Store.rewindow_withoutWindow e.withoutWindow.store.page e.store.page p.records
    rw [hc, complete_of_payload hg hp]
    refine ⟨?_, ?_⟩
    · exact congrArg (fun page => Completion.applied ⟨page, _, _, p.shape, _⟩) hpage
    · exact congrArg (fun page => Engine.mk _ _ _ ⟨page, _, none⟩) hpage

end Engine

namespace Traffic

open Engine (Completion Config Issued)

variable {config : Config} {t t' : Traffic}

inductive Action where
  | event (x : Event)
  | search (query : String)
  | look

def Action.isRetrieval : Action → Bool
  | .event (.displayPage _) => false
  | .event (.displayPageSize _) => false
  | .event _ => true
  | .search _ => false
  | .look => false

def act (config : Config) (t : Traffic) : Action → Traffic
  | .event x => step config t x
  | .search _ => t
  | .look => t

def perform (config : Config) (t : Traffic) (as : List Action) : Traffic :=
  as.foldl (act config) t

def sent? (config : Config) (t : Traffic) : Action → Option (Except Failure Http.Request)
  | .event .issue => some ((t.engine.issue config).map fun issued => issued.1.request)
  | _ => none

def completed? (t : Traffic) : Action → Option (Ticket × Completion)
  | .event x => t.outcome? x
  | _ => none

/-- All that there is to see of an action but the window: what it sends, what comes of the fetch
that it completes, and the engine that it leaves. -/
structure Sight where
  sent : Option (Except Failure Http.Request)
  outcome : Option (Ticket × Completion)
  engine : Engine

def sight (config : Config) (t : Traffic) (a : Action) : Sight where
  sent := t.sent? config a
  outcome := (t.completed? a).map fun c => (c.1, c.2.withoutWindow)
  engine := (act config t a).engine.withoutWindow

def sights (config : Config) : Traffic → List Action → List Sight
  | _, [] => []
  | t, a :: as =>
    if a.isRetrieval then sight config t a :: sights config (act config t a) as
    else sights config (act config t a) as

def withoutWindow (t : Traffic) : Traffic := { t with engine := t.engine.withoutWindow }

theorem flight?_withoutWindow (t : Traffic) (k : Ticket) :
    t.withoutWindow.flight? k = t.flight? k := rfl

theorem sent?_withoutWindow (t : Traffic) (a : Action) :
    t.withoutWindow.sent? config a = t.sent? config a := by
  have hissue : t.withoutWindow.sent? config (.event .issue) =
      t.sent? config (.event .issue) := by
    have htarget : t.withoutWindow.engine.target = t.engine.target := rfl
    cases ht : t.engine.target with
    | none => rw [sent?, sent?, Engine.issue_of_no_target (htarget.trans ht),
        Engine.issue_of_no_target ht]
    | some target =>
      rw [sent?, sent?, Engine.issue_of_target (htarget.trans ht), Engine.issue_of_target ht]
      rfl
  cases a with
  | event x =>
    cases x with
    | issue => exact hissue
    | _ => rfl
  | search query => rfl
  | look => rfl

theorem completed?_withoutWindow (t : Traffic) (a : Action) :
    (t.withoutWindow.completed? a).map (fun c => (c.1, c.2.withoutWindow)) =
      (t.completed? a).map fun c => (c.1, c.2.withoutWindow) := by
  have hland : ∀ k reply,
      (t.withoutWindow.completion? k reply).map Completion.withoutWindow =
        (t.completion? k reply).map Completion.withoutWindow := by
    intro k reply
    rw [completion?, completion?, flight?_withoutWindow]
    cases t.flight? k with
    | none => rfl
    | some i => exact congrArg some (Engine.complete_withoutWindow t.engine i reply).1
  cases a with
  | event x =>
    cases x with
    | land k reply =>
      have hticket := congrArg (Option.map fun c => (k, c)) (hland k reply)
      simpa [completed?, outcome?, Function.comp_def] using hticket
    | _ => rfl
  | search query => rfl
  | look => rfl

theorem depart_withoutWindow (t : Traffic) :
    (t.withoutWindow.depart config).withoutWindow = (t.depart config).withoutWindow := by
  have htarget : t.withoutWindow.engine.target = t.engine.target := rfl
  cases ht : t.engine.target with
  | none =>
    rw [depart_of_no_target ht, depart_of_no_target (htarget.trans ht)]
    rfl
  | some target =>
    rw [depart_of_target ht, depart_of_target (htarget.trans ht)]
    rfl

theorem land_withoutWindow (t : Traffic) (k : Ticket) (reply : Reply) :
    (t.withoutWindow.land k reply).withoutWindow = (t.land k reply).withoutWindow := by
  cases hk : t.flight? k with
  | none =>
    rw [land_of_none hk, land_of_none ((flight?_withoutWindow t k).trans hk)]
    rfl
  | some i =>
    have hengine := (Engine.complete_withoutWindow t.engine i reply).2
    rw [land_of_flight hk, land_of_flight ((flight?_withoutWindow t k).trans hk)]
    exact congrArg (Traffic.mk · (t.flights.filter fun j => j.ticket ≠ k)) hengine

theorem act_withoutWindow (t : Traffic) (a : Action) :
    (act config t.withoutWindow a).withoutWindow = (act config t a).withoutWindow := by
  cases a with
  | event x =>
    cases x with
    | select target =>
      exact congrArg (Traffic.mk · t.flights) (Engine.selectTarget_withoutWindow t.engine target)
    | filter f =>
      exact congrArg (Traffic.mk · t.flights) (Engine.setFilters_withoutWindow t.engine f)
    | restart => rfl
    | issue => exact depart_withoutWindow t
    | land k reply => exact land_withoutWindow t k reply
    | displayPage n => rfl
    | displayPageSize n => rfl
  | search query => rfl
  | look => rfl

theorem sight_withoutWindow (t : Traffic) (a : Action) :
    sight config t.withoutWindow a = sight config t a := by
  have hengine : (act config t.withoutWindow a).engine.withoutWindow =
      (act config t a).engine.withoutWindow := congrArg Traffic.engine (act_withoutWindow t a)
  rw [sight, sight, sent?_withoutWindow, completed?_withoutWindow]
  exact congrArg (Sight.mk _ _) hengine

theorem act_of_not_retrieval {a : Action} (h : ¬a.isRetrieval = true) :
    (act config t a).withoutWindow = t.withoutWindow := by
  cases a with
  | event x =>
    cases x with
    | displayPage n => rfl
    | displayPageSize n => rfl
    | _ => exact absurd rfl h
  | search query => rfl
  | look => rfl

/-- What is seen of a run is what is seen of its retrievals alone, from any window on. -/
theorem perform_retrievals (as : List Action) (h : t.withoutWindow = t'.withoutWindow) :
    sights config t as = sights config t' (as.filter Action.isRetrieval) ∧
      (perform config t as).withoutWindow =
        (perform config t' (as.filter Action.isRetrieval)).withoutWindow := by
  induction as generalizing t t' with
  | nil => exact ⟨rfl, h⟩
  | cons a as ih =>
    by_cases ha : a.isRetrieval = true
    · have hsight : sight config t a = sight config t' a := by
        rw [← sight_withoutWindow t, h, sight_withoutWindow t']
      have hact : (act config t a).withoutWindow = (act config t' a).withoutWindow := by
        rw [← act_withoutWindow t, h, act_withoutWindow t']
      obtain ⟨hsights, hend⟩ := ih hact
      rw [List.filter_cons_of_pos ha, sights, sights, if_pos ha, if_pos ha, hsight, hsights]
      exact ⟨rfl, hend⟩
    · obtain ⟨hsights, hend⟩ := ih ((act_of_not_retrieval ha).trans h)
      rw [List.filter_cons_of_neg ha, sights, if_neg ha]
      exact ⟨hsights, hend⟩

theorem perform_start_retrievals (config : Config) (as : List Action) :
    sights config (start config) as =
        sights config (start config) (as.filter Action.isRetrieval) ∧
      (perform config (start config) as).engine.withoutWindow =
        (perform config (start config) (as.filter Action.isRetrieval)).engine.withoutWindow := by
  have hsame : (start config).withoutWindow = (start config).withoutWindow := rfl
  obtain ⟨hsights, hend⟩ := perform_retrievals as hsame
  exact ⟨hsights, congrArg Traffic.engine hend⟩

/-- Two runs with the same retrievals show the same at each of them, and end in engines that differ
in the window alone, where a search of the page finds the same. -/
theorem window_unseen {as bs : List Action}
    (h : as.filter Action.isRetrieval = bs.filter Action.isRetrieval) :
    sights config (start config) as = sights config (start config) bs ∧
      (perform config (start config) as).engine.withoutWindow =
        (perform config (start config) bs).engine.withoutWindow ∧
      ∀ query, (perform config (start config) as).engine.searchLocal query =
        (perform config (start config) bs).engine.searchLocal query := by
  obtain ⟨hsights, hend⟩ := perform_start_retrievals config as
  obtain ⟨hsights', hend'⟩ := perform_start_retrievals config bs
  rw [← h] at hsights' hend'
  refine ⟨hsights.trans hsights'.symm, hend.trans hend'.symm, ?_⟩
  intro query
  rw [← Engine.searchLocal_withoutWindow, hend.trans hend'.symm, Engine.searchLocal_withoutWindow]

def Sample.watched : List Action :=
  [.event (.select Sample.target), .event (.displayPageSize 1), .event .issue, .search "A",
    .event (.displayPage 7), .event (.land ⟨2⟩ (Sample.answer ["a", "b"])),
    .event (.displayPage 2), .event .issue]

def Sample.unwatched : List Action :=
  [.look, .event (.select Sample.target), .event .issue,
    .event (.land ⟨2⟩ (Sample.answer ["a", "b"])), .event .issue]

/-- The windows differ in the end, and nothing else does. -/
theorem unseen_by_an_unwatched_run :
    (perform Sample.config (start Sample.config) Sample.watched).engine.store.page.pageIndex = 2 ∧
    (perform Sample.config (start Sample.config) Sample.unwatched).engine.store.page.pageIndex = 1 ∧
    sights Sample.config (start Sample.config) Sample.watched =
      sights Sample.config (start Sample.config) Sample.unwatched ∧
    (perform Sample.config (start Sample.config) Sample.watched).engine.withoutWindow =
      (perform Sample.config (start Sample.config) Sample.unwatched).engine.withoutWindow := by
  obtain ⟨hsights, hend, -⟩ :=
    @window_unseen Sample.config Sample.watched Sample.unwatched rfl
  exact ⟨by decide +kernel, by decide +kernel, hsights, hend⟩

end Traffic

end ClusterConsole
