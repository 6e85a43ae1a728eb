import ClusterConsole.Catalog.Call
import ClusterConsole.Proofs.Backend.Envelope
import ClusterConsole.Proofs.Engine.Operations

/-!
# Which failures the catalog reports

A call that is answered in an envelope reports every answer that does not say `success: true`. The
list of connections comes without an envelope, so its status is all that is asked for, and a body
that says `success: false` passes for an empty list.
-/

namespace ClusterConsole.Catalog

open Backend (Endpoints Failure Successful Unsuccessful Wording)
open Http (Request Response)
open Json (Value)

variable {α : Type}

/-- The call ends in a rejection with the status of the response and in its wording. -/
def Call.Reports (c : Call α) (r : Response) : Prop :=
  ∃ message, Wording r message ∧ c.finish (.response r) = .error (.rejected r.status message)

theorem map_eq_error_iff {x : Except Failure Value} {f : Value → α} {failure : Failure} :
    x.map f = .error failure ↔ x = .error failure := by
  cases x <;> simp [Except.map]

theorem enveloped_finish (request : Request) (ofBody : Value → α) (r : Response) :
    (enveloped request ofBody).finish (.response r) = (Backend.openEnvelope r).map ofBody := rfl

theorem enveloped_finish_of_successful {r : Response} {body : Value} (h : Successful r body)
    (request : Request) (ofBody : Value → α) :
    (enveloped request ofBody).finish (.response r) = .ok (ofBody body) := by
  rw [enveloped_finish, h.opened]
  rfl

theorem listConnections_finish (e : Endpoints) (r : Response) :
    (listConnections e).finish (.response r) = (Backend.plainBody r).map connectionsOf := rfl

theorem enveloped_reports_iff (request : Request) (ofBody : Value → α) (r : Response) :
    (enveloped request ofBody).Reports r ↔ Unsuccessful r := by
  simp only [Call.Reports, enveloped_finish, map_eq_error_iff]
  refine ⟨?_, Backend.openEnvelope_refuses⟩
  rintro ⟨message, -, h⟩
  exact Backend.openEnvelope_rejected_iff.1 ⟨r.status, message, h⟩

theorem listConnections_reports_iff (e : Endpoints) (r : Response) :
    (listConnections e).Reports r ↔ r.isSuccess = false := by
  simp only [Call.Reports, listConnections_finish, map_eq_error_iff]
  refine ⟨?_, Backend.plainBody_refuses⟩
  rintro ⟨message, -, h⟩
  refine Bool.eq_false_iff.2 fun hstatus => ?_
  rw [Backend.plainBody_of_success hstatus] at h
  cases hjson : r.json with
  | error f => rw [hjson] at h; cases h
  | ok body => rw [hjson] at h; cases h

theorem listConnections_of_no_list {e : Endpoints} {r : Response} {body : Value}
    (hstatus : r.isSuccess = true) (hjson : r.json = .ok body) (hitems : body.items? = none) :
    (listConnections e).finish (.response r) = .ok [] := by
  rw [listConnections_finish, Backend.plainBody_of_success hstatus, hjson]
  change Except.ok (connectionsOf body) = _
  rw [connectionsOf, hitems]
  rfl

/-- The four calls that are answered in an envelope report every response that is no success. The
list of connections reports the status alone: with a good status any JSON but an array is an empty
list, also where it says `success: false`. -/
theorem failures_reported_but_by_list (e : Endpoints) (connection : Connection)
    (id className : String) (r : Response) :
    ((getConnection e id).Reports r ↔ Unsuccessful r) ∧
    ((testConnection e connection).Reports r ↔ Unsuccessful r) ∧
    ((listClasses e connection).Reports r ↔ Unsuccessful r) ∧
    ((classProperties e connection className).Reports r ↔ Unsuccessful r) ∧
    ((listConnections e).Reports r ↔ r.isSuccess = false) ∧
    ∀ body, r.isSuccess = true → r.json = .ok body → body.items? = none →
      (listConnections e).finish (.response r) = .ok [] := by
  refine ⟨enveloped_reports_iff _ _ r, enveloped_reports_iff _ _ r, enveloped_reports_iff _ _ r,
    enveloped_reports_iff _ _ r, listConnections_reports_iff e r, ?_⟩
  intro body
  exact listConnections_of_no_list

def Sample.refusalBody : Value :=
  .object [("success", .bool false), ("message", .string "unauthorized")]

def Sample.refusal : Response := .make 200 "OK" [] Sample.refusalBody.text

/-- A refusal that the other calls report passes for a list without connections. -/
theorem refusal_read_as_no_connections :
    Sample.refusal.json = .ok Sample.refusalBody ∧
    Sample.refusalBody.field? "success" = some (.bool false) ∧
    (getConnection ClusterConsole.Sample.config.endpoints "c").Reports Sample.refusal ∧
    ¬(listConnections ClusterConsole.Sample.config.endpoints).Reports Sample.refusal ∧
    (listConnections ClusterConsole.Sample.config.endpoints).finish (.response Sample.refusal) =
      .ok [] := by
  have hreadable : Sample.refusalBody.Readable Json.maxDepth := by
    simp [Sample.refusalBody, Value.Readable, Json.Fields.names, Json.maxDepth]
  have hjson : Sample.refusal.json = .ok Sample.refusalBody :=
    Http.Response.json_make hreadable 200 "OK" []
  have hsuccess : Sample.refusalBody.field? "success" = some (.bool false) := by rfl
  have hstatus : Sample.refusal.isSuccess = true := by decide
  refine ⟨hjson, hsuccess, ?_, ?_, listConnections_of_no_list hstatus hjson rfl⟩
  · exact (enveloped_reports_iff _ _ _).2 (.inr ⟨_, hjson, by simp [hsuccess]⟩)
  · rw [listConnections_reports_iff, hstatus]
    decide

def Sample.envelope (data : Value) : Value := .object [("success", .bool true), ("data", data)]

def Sample.answer (data : Value) : Response := .make 200 "OK" [] (Sample.envelope data).text

theorem Sample.answer_successful (data : Value) (h : data.Readable 126) :
    Successful (Sample.answer data) (Sample.envelope data) := by
  have hreadable : (Sample.envelope data).Readable Json.maxDepth := by
    simp [Sample.envelope, Value.Readable, Json.Fields.names, Json.maxDepth, h]
  exact ⟨rfl, Http.Response.json_make hreadable 200 "OK" [], rfl⟩

end ClusterConsole.Catalog
