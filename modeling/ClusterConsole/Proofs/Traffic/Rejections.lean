import ClusterConsole.Proofs.Traffic.Coherence

/-!
# Rejections

A JSON response is a rejection unless its status is a success and its body says `success: true`. So
a body that says nothing of success is rejected whatever objects it holds: a graph answer counts
only inside the backend's own envelope.
-/

namespace ClusterConsole

namespace Engine

open Http (Response)
open Json (Value)

variable {e : Engine} {i : Issued} {r : Response} {body : Value} {f : Backend.Failure}

theorem complete_of_rejected_envelope (hcurrent : e.store.isCurrent i.ticket = true)
    (h : Backend.openEnvelope r = .error f) :
    e.complete i (.response r) = (.failed f, e.noting f) :=
  complete_of_failure (by simpa [Store.isCurrent] using hcurrent) (payloadOf_refused h)

theorem complete_of_opened_envelope (hcurrent : e.store.isCurrent i.ticket = true)
    (h : Backend.openEnvelope r = .ok body) :
    e.complete i (.response r) =
      (.applied (e.reportOn i.query (.ofBody body i.query.className)),
        e.taking i.query (.ofBody body i.query.className)) :=
  complete_of_payload (by simpa [Store.isCurrent] using hcurrent) (payloadOf_opened h)

theorem complete_failed_iff (hcurrent : e.store.isCurrent i.ticket = true) :
    (e.complete i (.response r)).1 = .failed f ↔ Backend.openEnvelope r = .error f := by
  cases h : Backend.openEnvelope r with
  | error g => simp [complete_of_rejected_envelope hcurrent h]
  | ok body => simp [complete_of_opened_envelope hcurrent h]

/-- A response rejects a current fetch for its status or for want of `success: true`. When the
status is a success, `success: true` alone decides: with it the fetch is applied with the records of
the payload, and a body that says `success: false` or nothing of success changes the last error
alone. -/
theorem rejected_unless_success_said (hcurrent : e.store.isCurrent i.ticket = true)
    (r : Response) :
    ((∃ status message, (e.complete i (.response r)).1 = .failed (.rejected status message)) ↔
      r.isSuccess = false ∨
        ∃ body, r.json = .ok body ∧ body.field? "success" ≠ some (.bool true)) ∧
    ∀ body, r.isSuccess = true → r.json = .ok body →
      (body.field? "success" ≠ some (.bool true) →
        e.complete i (.response r) =
          (.failed (Backend.rejection r.status body),
            e.noting (Backend.rejection r.status body))) ∧
      (body.field? "success" = some (.bool true) → ∃ report,
        (e.complete i (.response r)).1 = .applied report ∧
          report.page.records = (Payload.ofBody body i.query.className).records ∧
          report.shape = (Payload.ofBody body i.query.className).shape) := by
  refine ⟨?_, ?_⟩
  · simp only [complete_failed_iff hcurrent]
    exact Backend.openEnvelope_rejected_iff
  · intro body hstatus hjson
    refine ⟨?_, ?_⟩
    · intro h
      exact complete_of_rejected_envelope hcurrent
        (Backend.openEnvelope_of_unsuccessful hjson fun hs => h hs.2)
    · intro h
      rw [complete_of_opened_envelope hcurrent (Backend.openEnvelope_eq_ok.2 ⟨hstatus, hjson, h⟩)]
      exact ⟨_, rfl, rfl, rfl⟩

end Engine

namespace Traffic

open Engine (Issued)

def Sample.narrowed : List Event := [.select Sample.target, .filter Sample.filters]

def Sample.searching : List Event := Sample.narrowed ++ [.issue]

def Sample.sought : Issued :=
  (after Sample.config Sample.narrowed).engine.fetchFor Sample.config Sample.target

def Sample.graphFields : Json.Fields :=
  [("data", .object [("Get", .object [("Widget", .array [.object [
    ("name", .string "acme"), ("_additional", .object [("id", .string "w1")])]])])])]

def Sample.graphBody : Json.Value := .object Sample.graphFields

def Sample.envelopedBody : Json.Value := .object (("success", .bool true) :: Sample.graphFields)

def Sample.graphResponse : Http.Response := .make 200 "OK" [] Sample.graphBody.text

def Sample.envelopedResponse : Http.Response := .make 200 "OK" [] Sample.envelopedBody.text

theorem Sample.graphFields_readable :
    ∀ f ∈ Sample.graphFields, f.2.Readable (Json.maxDepth - 1) := by
  simp [Sample.graphFields, Json.Value.Readable, Json.Fields.names, Json.maxDepth]

theorem Sample.sought_flies :
    (after Sample.config Sample.searching).flight? Sample.sought.ticket = some Sample.sought := by
  have htarget : (after Sample.config Sample.narrowed).engine.target = some Sample.target := by
    decide +kernel
  refine (after_ordered Sample.config Sample.searching).flight?_of_mem ?_
  rw [Sample.searching, after_concat, step_issue, depart_of_target htarget]
  exact List.mem_append_right _ (List.mem_singleton.2 rfl)

/-- The payload of the graph answer has the object that is searched for, and yet the search is
rejected. -/
theorem graph_answer_rejected :
    (after Sample.config Sample.searching).flight? Sample.sought.ticket = some Sample.sought ∧
    (after Sample.config Sample.searching).engine.store.isCurrent Sample.sought.ticket = true ∧
    Sample.graphResponse.isSuccess = true ∧ Sample.graphResponse.json = .ok Sample.graphBody ∧
    Sample.graphBody.field? "success" = none ∧
    (Payload.ofBody Sample.graphBody "Widget").records.map (·.id) = ["w1"] ∧
    (after Sample.config Sample.searching).completion? Sample.sought.ticket
      (.response Sample.graphResponse) = some (.failed (.rejected 200 "HTTP 200")) := by
  have hcurrent : (after Sample.config Sample.searching).engine.store.isCurrent
      Sample.sought.ticket = true := by decide +kernel
  have hreadable : Sample.graphBody.Readable Json.maxDepth :=
    ⟨by decide, Sample.graphFields_readable⟩
  have hjson : Sample.graphResponse.json = .ok Sample.graphBody :=
    Http.Response.json_make hreadable 200 "OK" []
  have hsilent : Sample.graphBody.field? "success" = none := by decide
  have hrejection : Backend.rejection Sample.graphResponse.status Sample.graphBody =
      .rejected 200 "HTTP 200" := by decide +kernel
  refine ⟨Sample.sought_flies, hcurrent, by decide, hjson, hsilent, by decide +kernel, ?_⟩
  rw [completion?, Sample.sought_flies, Option.map_some,
    Engine.complete_of_rejected_envelope hcurrent
      (Backend.openEnvelope_of_unsuccessful hjson (by simp [hsilent])), hrejection]

/-- The same objects are found once the envelope says `success: true`. -/
theorem graph_answer_applied_in_envelope :
    (after Sample.config Sample.searching).engine.store.isCurrent Sample.sought.ticket = true ∧
    ∃ report, ((after Sample.config Sample.searching).engine.complete Sample.sought
        (.response Sample.envelopedResponse)).1 = .applied report ∧
      report.page.records.map (·.id) = ["w1"] ∧ report.shape = some .graph := by
  have hcurrent : (after Sample.config Sample.searching).engine.store.isCurrent
      Sample.sought.ticket = true := by decide +kernel
  have hreadable : Sample.envelopedBody.Readable Json.maxDepth :=
    ⟨by decide, List.forall_mem_cons.2 ⟨trivial, Sample.graphFields_readable⟩⟩
  have hjson : Sample.envelopedResponse.json = .ok Sample.envelopedBody :=
    Http.Response.json_make hreadable 200 "OK" []
  obtain ⟨-, hdecides⟩ := Engine.rejected_unless_success_said hcurrent Sample.envelopedResponse
  obtain ⟨-, happlied⟩ := hdecides Sample.envelopedBody (by decide) hjson
  obtain ⟨report, hreport, hrecords, hshape⟩ := happlied (by rfl)
  refine ⟨hcurrent, report, hreport, ?_, ?_⟩
  · rw [hrecords]
    decide +kernel
  · rw [hshape]
    decide +kernel

end Traffic

end ClusterConsole
