import ClusterConsole.Objects.Engine
import ClusterConsole.Proofs.Objects.Payload
import ClusterConsole.Proofs.Objects.Query

/-!
# How a fetch is issued and how it ends

An issue needs a target and nothing else. A completion ends in one of three ways: the ticket is not
the newest generation, or the reply has no payload, or its payload is taken.
-/

namespace ClusterConsole

open Backend (Failure Reply)

namespace Engine

variable {e : Engine} {config : Config} {i : Issued} {reply : Reply}

def fetchFor (e : Engine) (config : Config) (t : Target) : Issued :=
  ⟨⟨e.store.generation + 1⟩, e.query config t,
    (e.query config t).toRequest t.connection config.endpoints⟩

def departed (e : Engine) : Engine :=
  { e with
    cursor := if e.filters.active.isEmpty then e.cursor else .start
    store := e.store.invalidate }

def noting (e : Engine) (f : Failure) : Engine :=
  { e with store := { e.store with lastError := some f.message } }

def taking (e : Engine) (q : Query) (p : Payload) : Engine :=
  { e with
    cursor := nextCursor e.cursor q p
    store := { e.store with page := Store.rewindow e.store.page p.records, lastError := none } }

def reportOn (e : Engine) (q : Query) (p : Payload) : Report :=
  ⟨Store.rewindow e.store.page p.records, q.mode.isSearch, q.mode.isSearch, p.shape,
    (nextCursor e.cursor q p).isPositioned⟩

theorem issue_of_target {t : Target} (h : e.target = some t) :
    e.issue config = .ok (e.fetchFor config t, e.departed) := by
  have hs : (e.query config t).mode.isSearch = !e.filters.active.isEmpty :=
    Query.Mode.select_isSearch _ _
  cases ha : e.filters.active.isEmpty <;>
    simp [issue, h, fetchFor, departed, Store.begin, hs, ha]

theorem issue_of_no_target (h : e.target = none) : e.issue config = .error .noTarget := by
  simp [issue, h]

theorem issue_eq_ok {e' : Engine} :
    e.issue config = .ok (i, e') ↔
      ∃ t, e.target = some t ∧ i = e.fetchFor config t ∧ e' = e.departed := by
  cases h : e.target with
  | none => simp [issue_of_no_target h]
  | some t => simp [issue_of_target h, eq_comm]

theorem issue_listing {e' : Engine} (h : e.issue config = .ok (i, e'))
    (ha : e.filters.active = []) :
    Query.Listing config.endpoints i.request e.cursor.id? config.options.fetchPageSize := by
  obtain ⟨t, -, rfl, -⟩ := issue_eq_ok.1 h
  exact Query.listing_toRequest (q := e.query config t) (Query.Mode.select_listing ha _) _ _

theorem complete_of_stale (h : i.ticket.generation ≠ e.store.generation) :
    e.complete i reply = (.stale, e) := by
  simp [complete, Store.isCurrent, h]

theorem complete_of_failure {f : Failure} (h : i.ticket.generation = e.store.generation)
    (hp : payloadOf i.query reply = .error f) :
    e.complete i reply = (.failed f, e.noting f) := by
  simp [complete, Store.isCurrent, Store.fail, h, hp, noting]

theorem complete_of_payload {p : Payload} (h : i.ticket.generation = e.store.generation)
    (hp : payloadOf i.query reply = .ok p) :
    e.complete i reply = (.applied (e.reportOn i.query p), e.taking i.query p) := by
  simp [complete, Store.isCurrent, Store.replace, h, hp, taking, reportOn]

theorem complete_cases (e : Engine) (i : Issued) (reply : Reply) :
    (i.ticket.generation ≠ e.store.generation ∧ e.complete i reply = (.stale, e)) ∨
    (i.ticket.generation = e.store.generation ∧ ∃ f, payloadOf i.query reply = .error f ∧
      e.complete i reply = (.failed f, e.noting f)) ∨
    (i.ticket.generation = e.store.generation ∧ ∃ p, payloadOf i.query reply = .ok p ∧
      e.complete i reply = (.applied (e.reportOn i.query p), e.taking i.query p)) := by
  by_cases h : i.ticket.generation = e.store.generation
  · cases hp : payloadOf i.query reply with
    | error f => exact .inr (.inl ⟨h, f, rfl, complete_of_failure h hp⟩)
    | ok p => exact .inr (.inr ⟨h, p, rfl, complete_of_payload h hp⟩)
  · exact .inl ⟨h, complete_of_stale h⟩

theorem complete_generation :
    (e.complete i reply).2.store.generation = e.store.generation := by
  rcases complete_cases e i reply with ⟨-, hc⟩ | ⟨-, f, -, hc⟩ | ⟨-, p, -, hc⟩ <;> rw [hc] <;> rfl

theorem complete_stale (h : (e.complete i reply).1 = .stale) : (e.complete i reply).2 = e := by
  rcases complete_cases e i reply with ⟨-, hc⟩ | ⟨-, f, -, hc⟩ | ⟨-, p, -, hc⟩
  · rw [hc]
  · rw [hc] at h; cases h
  · rw [hc] at h; cases h

theorem complete_applied {r : Report} (h : (e.complete i reply).1 = .applied r) :
    i.ticket.generation = e.store.generation ∧ ∃ p, payloadOf i.query reply = .ok p ∧
      r = e.reportOn i.query p ∧ (e.complete i reply).2 = e.taking i.query p := by
  rcases complete_cases e i reply with ⟨-, hc⟩ | ⟨-, f, -, hc⟩ | ⟨hk, p, hp, hc⟩
  · rw [hc] at h; cases h
  · rw [hc] at h; cases h
  · rw [hc] at h ⊢
    cases h
    exact ⟨hk, p, hp, rfl, rfl⟩

theorem complete_after {j : Issued} {reply' : Reply} (h : i.ticket ≠ j.ticket) :
    ((e.complete i reply).2.complete j reply').1 = (e.complete j reply').1 := by
  by_cases hi : i.ticket.generation = e.store.generation
  · have hj : j.ticket.generation ≠ e.store.generation := by
      intro hj
      exact h (by rw [Ticket.mk.injEq, hi, hj])
    have hj' : j.ticket.generation ≠ (e.complete i reply).2.store.generation := by
      rwa [complete_generation]
    rw [complete_of_stale hj, complete_of_stale hj']
  · rw [complete_of_stale hi]

/-- Of two fetches one at least is stale, so either may be completed first. -/
theorem complete_comm {j : Issued} {reply' : Reply} (h : i.ticket ≠ j.ticket) :
    ((e.complete i reply).2.complete j reply').2 =
      ((e.complete j reply').2.complete i reply).2 := by
  have stale_first : ∀ {i j : Issued} {r r' : Reply}, i.ticket.generation ≠ e.store.generation →
      ((e.complete i r).2.complete j r').2 = ((e.complete j r').2.complete i r).2 := by
    intro i j r r' hi
    have hi' : i.ticket.generation ≠ (e.complete j r').2.store.generation := by
      rwa [complete_generation]
    rw [complete_of_stale hi, complete_of_stale hi']
  by_cases hi : i.ticket.generation = e.store.generation
  · refine (stale_first ?_).symm
    intro hj
    exact h (by rw [Ticket.mk.injEq, hi, hj])
  · exact stale_first hi

/-- The payload of the query is a full page, and its last record can be continued after. -/
def Continues (q : Query) (p : Payload) (last : Record) : Prop :=
  p.records.getLast? = some last ∧ p.itemCount = q.limit.toNat ∧ last.hasBackendId

theorem ofPage_of_continues {q : Query} {p : Payload} {last : Record} (h : Continues q p last) :
    Cursor.ofPage p.records p.itemCount q.limit.toNat = .after last.id :=
  Cursor.ofPage_eq_after.2 ⟨last, h.1, h.2.1, h.2.2, rfl⟩

theorem ofPage_of_not_continues {q : Query} {p : Payload} (h : ¬∃ last, Continues q p last) :
    Cursor.ofPage p.records p.itemCount q.limit.toNat = .start := by
  cases hc : Cursor.ofPage p.records p.itemCount q.limit.toNat with
  | start => rfl
  | after id =>
    obtain ⟨last, hlast, hcount, hid, -⟩ := Cursor.ofPage_eq_after.1 hc
    exact absurd ⟨last, hlast, hcount, hid⟩ h

theorem reportOn_hasMore {e : Engine} {q : Query} {p : Payload} (h : q.mode.isSearch = false) :
    (e.reportOn q p).hasMore = true ↔ ∃ last, Continues q p last := by
  have hcursor : nextCursor e.cursor q p = .ofPage p.records p.itemCount q.limit.toNat := by
    simp [nextCursor, h]
  rw [reportOn, hcursor]
  by_cases hlast : ∃ last, Continues q p last
  · obtain ⟨last, hcontinues⟩ := hlast
    rw [ofPage_of_continues hcontinues]
    exact iff_of_true rfl ⟨last, hcontinues⟩
  · rw [ofPage_of_not_continues hlast]
    exact iff_of_false (by simp [Cursor.isPositioned]) hlast

end Engine

/-! A cluster whose pages have two objects, for concrete runs. -/

namespace Sample

def config : Engine.Config :=
  .make ⟨⟨"http".toList, some ⟨[], none, .name "localhost".toList, some 8080⟩, .segments [[]], none,
    none⟩⟩ ⟨2, 10, some 5⟩

def target : Engine.Target := ⟨⟨"c", "local", .http, "127.0.0.1:8080", none⟩, "Widget"⟩

def filters : FilterSet := ⟨[⟨"name", .equal, "acme"⟩], .and⟩

end Sample

end ClusterConsole
