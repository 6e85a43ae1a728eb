import ClusterConsole.Proofs.Traffic.Coherence
import Mathlib.Data.List.Induction

/-!
# What is shown

The records shown are all those of one response, the last that was applied since another target was
selected, and the error shown is that of the last fetch that was not stale, if it failed. A fetch
without a target is never under way, so nothing comes of it here.
-/

namespace ClusterConsole

open Backend (Reply)
open Json (Value)

def Store.SameRecords (s s' : Store) : Prop :=
  s'.page.records = s.page.records ∧ s'.page.total = s.page.total

namespace Traffic

open Engine (Completion Config Issued Report)
open Store (SameRecords)

variable {config : Config} {t : Traffic} {s s' : Store}

structure Moment where
  found : Traffic
  event : Event

namespace Moment

def Retargets (m : Moment) : Prop :=
  match m.event with
  | .select x => m.found.engine.target ≠ some x
  | _ => False

instance : DecidablePred Retargets := fun m => by
  unfold Retargets
  split <;> infer_instance

/-- What came of the fetch that the event completed, unless it was stale. -/
def settled? (m : Moment) : Option Completion :=
  match m.found.outcome? m.event with
  | some (_, .applied report) => some (.applied report)
  | some (_, .failed f) => some (.failed f)
  | _ => none

def applies (m : Moment) : Bool :=
  match m.settled? with
  | some (.applied _) => true
  | _ => false

def Brings (m : Moment) (i : Issued) (body : Value) : Prop :=
  ∃ r, m.event = .land i.ticket (.response r) ∧ m.found.flight? i.ticket = some i ∧
    r.json = .ok body

inductive Leaves (m : Moment) (s : Store) : Prop where
  | emptied (retargets : m.Retargets) (records : s.page.records = []) (total : s.page.total = 0)
    (error : s.lastError = none)
  | replaced {i : Issued} {body : Value} {report : Report} (stays : ¬m.Retargets)
    (brings : m.Brings i body) (settled : m.settled? = some (.applied report))
    (records : s.page.records = (Payload.ofBody body i.query.className).records)
    (total : s.page.total = s.page.records.length.toUInt64) (error : s.lastError = none)
  | failed {f : Backend.Failure} (stays : ¬m.Retargets) (settled : m.settled? = some (.failed f))
    (same : SameRecords m.found.engine.store s) (error : s.lastError = some f.message)
  | kept (stays : ¬m.Retargets) (settled : m.settled? = none)
    (same : SameRecords m.found.engine.store s)
    (error : s.lastError = m.found.engine.store.lastError)

end Moment

open Moment (Leaves)

theorem leaves_land (t : Traffic) (k : Ticket) (reply : Reply) :
    Leaves ⟨t, .land k reply⟩ (t.land k reply).engine.store := by
  have hstays : ¬Moment.Retargets ⟨t, .land k reply⟩ := id
  cases hk : t.flight? k with
  | none =>
    have hsettled : Moment.settled? ⟨t, .land k reply⟩ = none := by
      simp [Moment.settled?, outcome?, completion?, hk]
    rw [land_of_none hk]
    exact .kept hstays hsettled ⟨rfl, rfl⟩ rfl
  | some i =>
    rw [land_of_flight hk]
    rcases Engine.complete_cases t.engine i reply with ⟨-, hc⟩ | ⟨-, f, -, hc⟩ | ⟨-, p, hp, hc⟩
    · have hsettled : Moment.settled? ⟨t, .land k reply⟩ = none := by
        simp [Moment.settled?, outcome?, completion?, hk, hc]
      rw [hc]
      exact .kept hstays hsettled ⟨rfl, rfl⟩ rfl
    · have hsettled : Moment.settled? ⟨t, .land k reply⟩ = some (.failed f) := by
        simp [Moment.settled?, outcome?, completion?, hk, hc]
      rw [hc]
      exact .failed hstays hsettled ⟨rfl, rfl⟩ rfl
    · have hsettled : Moment.settled? ⟨t, .land k reply⟩ =
          some (.applied (t.engine.reportOn i.query p)) := by
        simp [Moment.settled?, outcome?, completion?, hk, hc]
      obtain ⟨r, body, rfl, hopen, rfl⟩ := Engine.payloadOf_opens hp
      have hjson : r.json = .ok body := (Backend.openEnvelope_eq_ok.1 hopen).2.1
      have hticket : i.ticket = k := (flight?_some hk).2
      rw [hc]
      exact .replaced hstays ⟨r, by rw [hticket], by rw [hticket]; exact hk, hjson⟩ hsettled rfl rfl
        rfl

theorem leaves_step (config : Config) (t : Traffic) (x : Event) :
    Leaves ⟨t, x⟩ (step config t x).engine.store := by
  cases x with
  | select target =>
    by_cases ht : t.engine.target = some target
    · refine .kept (fun h => h ht) rfl ?_ ?_
      · simp [SameRecords, step, Engine.selectTarget, ht]
      · simp [step, Engine.selectTarget, ht]
    · refine .emptied ht ?_ ?_ ?_ <;> simp [step, Engine.selectTarget, ht, Store.clear, Page.empty]
  | filter f =>
    refine .kept id rfl ?_ ?_ <;> by_cases hf : t.engine.filters = f <;>
      simp [SameRecords, step, Engine.setFilters, hf, Store.invalidate]
  | restart => exact .kept id rfl ⟨rfl, rfl⟩ rfl
  | issue =>
    cases ht : t.engine.target with
    | none =>
      rw [step_issue, depart_of_no_target ht]
      exact .kept id rfl ⟨rfl, rfl⟩ rfl
    | some target =>
      rw [step_issue, depart_of_target ht]
      exact .kept id rfl ⟨rfl, rfl⟩ rfl
  | land k reply => exact leaves_land t k reply
  | displayPage n => exact .kept id rfl ⟨rfl, rfl⟩ rfl
  | displayPageSize n => exact .kept id rfl ⟨rfl, rfl⟩ rfl

def moments (config : Config) : Traffic → List Event → List Moment
  | _, [] => []
  | t, x :: xs => ⟨t, x⟩ :: moments config (step config t x) xs

/-- The moments since another target was selected, the latest first. -/
def recent (config : Config) (events : List Event) : List Moment :=
  (moments config (start config) events).reverse.takeWhile fun m => !decide m.Retargets

theorem moments_append (config : Config) (t : Traffic) (xs ys : List Event) :
    moments config t (xs ++ ys) = moments config t xs ++ moments config (run config t xs) ys := by
  induction xs generalizing t with
  | nil => rfl
  | cons x xs ih => exact congrArg (_ :: ·) (ih (step config t x))

theorem recent_concat (config : Config) (events : List Event) (x : Event) :
    recent config (events ++ [x]) =
      if Moment.Retargets ⟨after config events, x⟩ then []
      else ⟨after config events, x⟩ :: recent config events := by
  have hlast : moments config (run config (start config) events) [x] =
      [⟨after config events, x⟩] := rfl
  rw [recent, moments_append, hlast, List.reverse_append, List.reverse_singleton,
    List.singleton_append, List.takeWhile_cons]
  by_cases h : Moment.Retargets ⟨after config events, x⟩ <;> simp [h, recent]

/-- The store shows the last of the moments that applied a response, and the last failure. -/
structure Shows (s : Store) (ms : List Moment) : Prop where
  blank : ms.find? Moment.applies = none → s.page.records = []
  whole : ∀ m, ms.find? Moment.applies = some m → ∃ i body, m.Brings i body ∧
    s.page.records = (Payload.ofBody body i.query.className).records
  total : s.page.total = s.page.records.length.toUInt64
  error : ∀ text, s.lastError = some text ↔
    ∃ f, ms.findSome? Moment.settled? = some (.failed f) ∧ f.message = text

theorem shows_nothing (hrecords : s.page.records = []) (htotal : s.page.total = 0)
    (herror : s.lastError = none) : Shows s [] := by
  refine ⟨fun _ => hrecords, ?_, ?_, ?_⟩
  · intro m hm
    cases hm
  · rw [htotal, hrecords]
    rfl
  · intro text
    simp [herror]

theorem Shows.same {ms : List Moment} (h : Shows s ms) (hsame : SameRecords s s')
    {ms' : List Moment} (hfind : ms'.find? Moment.applies = ms.find? Moment.applies)
    (herror : ∀ text, s'.lastError = some text ↔
      ∃ f, ms'.findSome? Moment.settled? = some (.failed f) ∧ f.message = text) : Shows s' ms' := by
  obtain ⟨hrecords, htotal⟩ := hsame
  refine ⟨?_, ?_, ?_, herror⟩
  · rw [hfind, hrecords]
    exact h.blank
  · rw [hfind, hrecords]
    exact h.whole
  · rw [htotal, hrecords]
    exact h.total

theorem Shows.concat {m : Moment} {ms : List Moment} (h : Shows m.found.engine.store ms)
    (hleaves : m.Leaves s) : Shows s (if m.Retargets then [] else m :: ms) := by
  cases hleaves with
  | emptied hretargets hrecords htotal herror =>
    rw [if_pos hretargets]
    exact shows_nothing hrecords htotal herror
  | @replaced i body report hstays hbrings hsettled hrecords htotal herror =>
    have happlies : m.applies = true := by simp [Moment.applies, hsettled]
    rw [if_neg hstays]
    refine ⟨?_, ?_, htotal, ?_⟩
    · simp [happlies]
    · intro m' hm'
      rw [List.find?_cons_of_pos happlies, Option.some.injEq] at hm'
      exact ⟨i, body, hm' ▸ hbrings, hrecords⟩
    · simp [herror, hsettled]
  | @failed f hstays hsettled hsame herror =>
    have happlies : ¬m.applies = true := by simp [Moment.applies, hsettled]
    rw [if_neg hstays]
    refine h.same hsame (List.find?_cons_of_neg happlies) ?_
    intro text
    simp [herror, hsettled]
  | kept hstays hsettled hsame herror =>
    have happlies : ¬m.applies = true := by simp [Moment.applies, hsettled]
    rw [if_neg hstays]
    refine h.same hsame (List.find?_cons_of_neg happlies) ?_
    intro text
    rw [herror, h.error, List.findSome?_cons, hsettled]

theorem after_shows (config : Config) (events : List Event) :
    Shows (after config events).engine.store (recent config events) := by
  -- The latest event decides what is shown, so the events are taken off from the end.
  induction events using List.reverseRecOn with
  | nil => exact shows_nothing rfl rfl rfl
  | append_singleton xs x ih =>
    rw [recent_concat, after_concat]
    exact Shows.concat (m := ⟨after config xs, x⟩) ih (leaves_step config _ x)

theorem sameRecords_step {x : Event} (hstays : ¬Moment.Retargets ⟨t, x⟩)
    (happlies : Moment.applies ⟨t, x⟩ = false) :
    SameRecords t.engine.store (step config t x).engine.store := by
  cases leaves_step config t x with
  | emptied hretargets => exact absurd hretargets hstays
  | replaced _ _ hsettled => simp [Moment.applies, hsettled] at happlies
  | failed _ _ hsame => exact hsame
  | kept _ _ hsame => exact hsame

/-- After any events the records shown are the whole of one response, the last that was applied
since another target was selected, and the error shown is that of the last fetch that was not stale,
if it failed. An event that neither selects another target nor applies a response keeps the
records. -/
theorem last_response_shown (config : Config) (events : List Event) :
    Shows (after config events).engine.store (recent config events) ∧
      ∀ x, ¬Moment.Retargets ⟨after config events, x⟩ →
        Moment.applies ⟨after config events, x⟩ = false →
        SameRecords (after config events).engine.store
          (after config (events ++ [x])).engine.store := by
  refine ⟨after_shows config events, ?_⟩
  intro x hstays happlies
  rw [after_concat]
  exact sameRecords_step hstays happlies

def Sample.viewed : List Event :=
  Sample.listed ++ [.issue, .land ⟨3⟩ (.timeout 5), .issue, .filter Sample.filters,
    .land ⟨4⟩ (Sample.answer ["x"])]

theorem page_shown_beside_timeout :
    (∃ (m : Moment) (i : Issued) (body : Value),
      m.event = .land ⟨2⟩ (Sample.answer ["a", "b"]) ∧ m.Brings i body ∧
      (after Sample.config Sample.viewed).engine.store.page.records =
        (Payload.ofBody body i.query.className).records) ∧
    (∃ f, (recent Sample.config Sample.viewed).findSome? Moment.settled? = some (.failed f) ∧
      f.message = "request timed out after 5 ms") ∧
    SameRecords (after Sample.config Sample.viewed).engine.store
      (after Sample.config (Sample.viewed ++ [.restart])).engine.store := by
  obtain ⟨hshows, hkeeps⟩ := last_response_shown Sample.config Sample.viewed
  have hlast : ((recent Sample.config Sample.viewed).find? Moment.applies).map (·.event) =
      some (.land ⟨2⟩ (Sample.answer ["a", "b"])) := by
    decide +kernel
  have herror : (after Sample.config Sample.viewed).engine.store.lastError =
      some "request timed out after 5 ms" := by
    decide +kernel
  obtain ⟨m, hm, hevent⟩ := Option.map_eq_some_iff.1 hlast
  obtain ⟨i, body, hbrings, hrecords⟩ := hshows.whole m hm
  exact ⟨⟨m, i, body, hevent, hbrings, hrecords⟩, (hshows.error _).1 herror,
    hkeeps .restart id rfl⟩

end Traffic

end ClusterConsole
