import ClusterConsole.Objects.Cursor
import ClusterConsole.Objects.Engine
import ClusterConsole.Objects.Payload
import ClusterConsole.Proofs.Backend.Envelope

/-!
# What a payload holds

The records of a payload are at most its items, and none of them has an empty id. So a full page
whose last record has an id of the backend's gives the listing a place to continue from.
-/

namespace ClusterConsole

namespace Json.Number

theorem render_ne_nil (layout : Decimal.Layout) (d : Decimal) : d.render layout ≠ [] := by
  unfold Decimal.render
  split
  · simp [Decimal.fraction]
  · split <;> simp

theorem chars_ne_nil (n : Number) : n.chars ≠ [] := by
  cases n with
  | natural n => simp [chars, Nat.toString_eq_repr, Nat.toList_repr, Nat.toDigits_ne_nil]
  | negative n => simp [chars]
  | real x =>
    intro h
    rw [chars, Binary64.render, List.append_eq_nil_iff] at h
    obtain ⟨-, hbody⟩ := h
    split at hbody
    · cases hbody
    · exact render_ne_nil _ _ hbody

end Json.Number

namespace Record

open Json (Value)

theorem idText?_ne_empty {v : Value} {id : String} (h : idText? v = some id) : id ≠ "" := by
  cases v with
  | string s =>
    by_cases hs : s = ""
    · simp [idText?, hs] at h
    · simp only [idText?, hs, if_false, Option.some.injEq] at h
      rwa [← h]
  | number n =>
    simp only [idText?, Option.some.injEq] at h
    rw [← h, Json.Number.text]
    intro he
    exact Json.Number.chars_ne_nil n (by simpa using congrArg String.toList he)
  | null => cases h
  | bool b => cases h
  | array vs => cases h
  | object fs => cases h

theorem id_ne_empty (shape : Shape) (fields : Json.Fields) : (ofFields shape fields).id ≠ "" := by
  cases h : (metadata fields "id").bind idText? with
  | none => simp [ofFields, h, sentinel]
  | some id =>
    obtain ⟨v, -, hv⟩ := Option.bind_eq_some_iff.1 h
    simpa [ofFields, h] using idText?_ne_empty hv

end Record

namespace Payload

open Json (Value)

theorem records_length_le (body : Value) (className : String) :
    (ofBody body className).records.length ≤ (ofBody body className).itemCount := by
  cases h : find? body className with
  | none => simp [ofBody, h]
  | some found => simpa [ofBody, h] using List.length_filterMap_le _ _

theorem record_id_ne_empty {body : Value} {className : String} {r : Record}
    (h : r ∈ (ofBody body className).records) : r.id ≠ "" := by
  cases hf : find? body className with
  | none => simp [ofBody, hf] at h
  | some found =>
    simp only [ofBody, hf, List.mem_filterMap] at h
    obtain ⟨item, -, hr⟩ := h
    obtain ⟨fields, -, rfl⟩ := Option.map_eq_some_iff.1 hr
    exact Record.id_ne_empty _ _

end Payload

namespace Cursor

theorem ofPage_eq_after {records : List Record} {itemCount requested : Nat} {id : String} :
    ofPage records itemCount requested = .after id ↔
      ∃ last, records.getLast? = some last ∧ itemCount = requested ∧ last.hasBackendId ∧
        last.id = id := by
  cases h : records.getLast? with
  | none => simp [ofPage, h]
  | some last =>
    by_cases hp : itemCount = requested ∧ last.hasBackendId
    · simp [ofPage, h, hp.1, hp.2]
    · simp only [ofPage, h, if_neg hp, Option.some.injEq, exists_eq_left', reduceCtorEq, false_iff]
      rintro ⟨hc, hb, -⟩
      exact hp ⟨hc, hb⟩

end Cursor

namespace Engine

variable {q : Query} {reply : Backend.Reply} {p : Payload}

theorem payloadOf_opened {r : Http.Response} {body : Json.Value}
    (h : Backend.openEnvelope r = .ok body) :
    payloadOf q (.response r) = .ok (.ofBody body q.className) := by
  simp [payloadOf, Backend.Reply.response?, h, bind, Except.bind, pure, Except.pure]

theorem payloadOf_refused {r : Http.Response} {f : Backend.Failure}
    (h : Backend.openEnvelope r = .error f) : payloadOf q (.response r) = .error f := by
  simp [payloadOf, Backend.Reply.response?, h, bind, Except.bind]

theorem payloadOf_opens (h : payloadOf q reply = .ok p) :
    ∃ r body, reply = .response r ∧ Backend.openEnvelope r = .ok body ∧
      p = .ofBody body q.className := by
  cases reply with
  | failure f => cases h
  | timeout ms => cases h
  | response r =>
    cases ho : Backend.openEnvelope r with
    | error f =>
      rw [payloadOf_refused ho] at h
      cases h
    | ok body =>
      rw [payloadOf_opened ho] at h
      cases h
      exact ⟨r, body, rfl, ho, rfl⟩

theorem payloadOf_eq_ok (h : payloadOf q reply = .ok p) : ∃ body, p = .ofBody body q.className := by
  obtain ⟨r, body, -, -, hp⟩ := payloadOf_opens h
  exact ⟨body, hp⟩

end Engine

end ClusterConsole
