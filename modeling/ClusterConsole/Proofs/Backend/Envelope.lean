import ClusterConsole.Backend.Envelope

/-!
# What the envelope lets through

A response in an envelope is opened when its status is a success and its body says `success: true`.
Any other JSON is a rejection, and so is any other status. Outside an envelope the status alone
decides. A rejection is worded by the response: its own message, or else its status.
-/

namespace ClusterConsole.Backend

open Http (Response)
open Json (Value)

variable {r : Response} {body : Value}

theorem reportsSuccess_iff :
    reportsSuccess body = true ↔ body.field? "success" = some (.bool true) := by
  unfold reportsSuccess
  split
  · next b h => simp [h]
  · next h =>
    refine iff_of_false (by simp) ?_
    intro ht
    exact h true ht

theorem openEnvelope_eq_ok :
    openEnvelope r = .ok body ↔
      r.isSuccess = true ∧ r.json = .ok body ∧ body.field? "success" = some (.bool true) := by
  rw [← reportsSuccess_iff, openEnvelope]
  cases hj : r.json with
  | error f => cases hs : r.isSuccess <;> simp
  | ok b =>
    dsimp only
    split
    · next hs =>
      rw [Bool.and_eq_true] at hs
      refine ⟨?_, ?_⟩
      · rintro ⟨⟩
        exact ⟨hs.1, rfl, hs.2⟩
      · rintro ⟨-, hbody, -⟩
        cases hbody
        rfl
    · next hs =>
      refine iff_of_false (by simp) ?_
      rintro ⟨hstatus, hbody, hsuccess⟩
      cases hbody
      exact hs (by rw [hstatus, hsuccess]; rfl)

structure Successful (r : Response) (body : Value) : Prop where
  status : r.isSuccess = true
  json : r.json = .ok body
  success : body.field? "success" = some (.bool true)

theorem Successful.opened (h : Successful r body) : openEnvelope r = .ok body :=
  openEnvelope_eq_ok.2 ⟨h.status, h.json, h.success⟩

theorem openEnvelope_of_unsuccessful (hjson : r.json = .ok body)
    (h : ¬(r.isSuccess = true ∧ body.field? "success" = some (.bool true))) :
    openEnvelope r = .error (rejection r.status body) := by
  rw [← reportsSuccess_iff, ← Bool.and_eq_true] at h
  simp only [openEnvelope, hjson, if_neg h]

theorem trimmed_text_eq_some_iff {member : Option Value} {text : String} :
    ((member.bind (·.string?)).map Text.trim).filter (· ≠ "") = some text ↔
      ∃ raw, member = some (.string raw) ∧ text ≠ "" ∧ Text.trim raw = text := by
  cases member with
  | none => simp
  | some v => cases v <;> simp [Value.string?, Option.filter_eq_some_iff, and_comm]

theorem messageOf?_eq_some {message : String} :
    messageOf? body = some message ↔ ∃ text, body.field? "message" = some (.string text) ∧
      message ≠ "" ∧ Text.trim text = message :=
  trimmed_text_eq_some_iff

/-- How a rejection is worded: as the body's message without the blanks around it, or by the status
when the body has no message that is a text of more than blanks. -/
inductive Wording (r : Response) : String → Prop where
  | message {body : Value} {text : String} (hjson : r.json = .ok body)
    (hmessage : body.field? "message" = some (.string text)) (htext : Text.trim text ≠ "") :
    Wording r (Text.trim text)
  | status (h : ∀ body text, r.json = .ok body → body.field? "message" = some (.string text) →
      Text.trim text = "") : Wording r ("HTTP " ++ toString r.status.toNat)

theorem wording_of_json (hjson : r.json = .ok body) :
    Wording r ((messageOf? body).getD (statusMessage r.status)) := by
  cases hmessage : messageOf? body with
  | some message =>
    obtain ⟨text, hfield, htext, rfl⟩ := messageOf?_eq_some.1 hmessage
    exact .message hjson hfield htext
  | none =>
    refine .status fun body' text hjson' hfield => ?_
    rw [hjson, Except.ok.injEq] at hjson'
    subst hjson'
    refine Decidable.byContradiction fun htext => ?_
    rw [messageOf?_eq_some.2 ⟨text, hfield, htext, rfl⟩] at hmessage
    cases hmessage

theorem wording_of_no_json {f : Transport.Failure} (hjson : r.json = .error f) :
    Wording r (statusMessage r.status) := by
  refine .status fun body text hjson' => ?_
  rw [hjson] at hjson'
  cases hjson'

def Unsuccessful (r : Response) : Prop :=
  r.isSuccess = false ∨ ∃ body, r.json = .ok body ∧ body.field? "success" ≠ some (.bool true)

theorem openEnvelope_refuses (h : Unsuccessful r) :
    ∃ message, Wording r message ∧ openEnvelope r = .error (.rejected r.status message) := by
  cases hjson : r.json with
  | error f =>
    rcases h with hstatus | ⟨body, hbody, -⟩
    · exact ⟨_, wording_of_no_json hjson, by simp [openEnvelope, hjson, hstatus]⟩
    · rw [hjson] at hbody
      cases hbody
  | ok body =>
    refine ⟨_, wording_of_json hjson, openEnvelope_of_unsuccessful hjson ?_⟩
    rintro ⟨hstatus, hsuccess⟩
    rcases h with h | ⟨body', hbody, h⟩
    · rw [hstatus] at h
      cases h
    · rw [hjson, Except.ok.injEq] at hbody
      exact h (hbody ▸ hsuccess)

theorem openEnvelope_rejected_iff :
    (∃ status message, openEnvelope r = .error (.rejected status message)) ↔ Unsuccessful r := by
  refine ⟨?_, ?_⟩
  · rintro ⟨status, message, h⟩
    cases hstatus : r.isSuccess with
    | false => exact .inl hstatus
    | true =>
      refine .inr ?_
      cases hjson : r.json with
      | error f => simp [openEnvelope, hjson, hstatus] at h
      | ok body =>
        refine ⟨body, rfl, fun hsuccess => ?_⟩
        rw [openEnvelope_eq_ok.2 ⟨hstatus, hjson, hsuccess⟩] at h
        cases h
  · intro h
    obtain ⟨message, -, hrefused⟩ := openEnvelope_refuses h
    exact ⟨r.status, message, hrefused⟩

theorem plainBody_of_success (hstatus : r.isSuccess = true) :
    plainBody r = r.json.mapError .transport := by
  rw [plainBody, if_pos hstatus]

theorem plainBody_refuses (hstatus : r.isSuccess = false) :
    ∃ message, Wording r message ∧ plainBody r = .error (.rejected r.status message) := by
  rw [plainBody, if_neg (Bool.eq_false_iff.1 hstatus)]
  cases hjson : r.json with
  | error f => exact ⟨_, wording_of_no_json hjson, rfl⟩
  | ok body => exact ⟨_, wording_of_json hjson, rfl⟩

end ClusterConsole.Backend
