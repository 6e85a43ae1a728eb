import ClusterConsole.Network.Script
import ClusterConsole.Proofs.Http.Headers
import ClusterConsole.Proofs.Transport.Attempts

/-!
# The transports agree

Whichever transport makes a request, the client is handed the same, and the answer is read to the
same response. The bridge keeps the headers of an answer in a map on their way, which loses nothing
as their names are in lowercase already.
-/

namespace ClusterConsole.Transport

open Http (Request Response)
open Network (Arrival Delivery Fault Outgoing Plan Script arrivalAt)

variable {σ : Type} {respond : σ → Outgoing → Delivery × σ} {policy : RetryPolicy} {r : Request}
  {out : Outgoing} {a : Arrival} {body : String}

theorem BridgeRequest.toRequest?_ofRequest (r : Request) : (ofRequest r).toRequest? = some r := by
  obtain ⟨url, method, headers, body⟩ := r
  cases method <;> rfl

theorem bridged_deliveries (policy : RetryPolicy) (r : Request)
    (respond : σ → Outgoing → Delivery × σ) (server : σ) :
    (bridged policy r).deliveries respond server =
      (retrying r policy.backoff policy.retries).deliveries respond server := by
  rw [bridged, hostExchange_of_supported (BridgeRequest.toRequest?_ofRequest r),
    Plan.map_deliveries, Plan.map_deliveries]

theorem bridged_run (policy : RetryPolicy) (r : Request)
    (respond : σ → Outgoing → Delivery × σ) (server : σ) :
    let run := (retrying r policy.backoff policy.retries).run respond server
    (bridged policy r).run respond server =
      ⟨overBridge (hostResult r.url run.result), run.server, run.moves⟩ := by
  rw [bridged, hostExchange_of_supported (BridgeRequest.toRequest?_ofRequest r),
    Plan.map_run, Plan.map_run]
  rfl

def Kind.resultOf (url : String) : Kind → Except Fault Arrival → Except Failure Response
  | .direct, arrival => directResult url arrival
  | .bridge, arrival => overBridge (hostResult url arrival)

theorem Kind.resultOf_fault (kind : Kind) (url : String) (f : Fault) :
    ∃ failure, kind.resultOf url (.error f) = .error failure := by
  cases kind <;> exact ⟨_, rfl⟩

theorem Kind.resultOf_brokenOff {f : Fault} (kind : Kind) (url : String)
    (h : a.text = .error f) : ∃ failure, kind.resultOf url (.ok a) = .error failure := by
  cases kind with
  | direct => exact ⟨_, by rw [resultOf, directResult, h]⟩
  | bridge => exact ⟨_, by rw [resultOf, hostResult, h, overBridge]⟩

theorem visibleHeaders_lower (h : ∀ e ∈ a.headers, Text.lowerAscii e.1 = e.1) :
    ∀ e ∈ a.visibleHeaders, Text.lowerAscii e.1 = e.1 := by
  intro e he
  obtain ⟨header, hmem, hvisible⟩ := List.mem_filterMap.1 he
  obtain ⟨value, -, rfl⟩ := Option.map_eq_some_iff.1 hvisible
  exact h header hmem

theorem Kind.resultOf_answer (kind : Kind) (url : String) (htext : a.text = .ok body)
    (hlower : ∀ e ∈ a.headers, Text.lowerAscii e.1 = e.1) :
    kind.resultOf url (.ok a) = .ok (responseOf a body) := by
  cases kind with
  | direct => rw [resultOf, directResult, htext]
  | bridge =>
    rw [resultOf, hostResult, htext, overBridge, BridgeResponse.toResponse,
      Http.Response.make_entries (visibleHeaders_lower hlower), responseOf]

theorem Kind.of_resultOf_ok {kind : Kind} {url : String} {arrival : Except Fault Arrival}
    {response : Response} (h : kind.resultOf url arrival = .ok response) :
    ∃ a body, arrival = .ok a ∧ a.text = .ok body ∧ response.status = a.status ∧
      response.body = body := by
  cases arrival with
  | error f =>
    obtain ⟨failure, hfailure⟩ := kind.resultOf_fault url f
    rw [hfailure] at h
    cases h
  | ok a =>
    cases htext : a.text with
    | error f =>
      obtain ⟨failure, hfailure⟩ := kind.resultOf_brokenOff url htext
      rw [hfailure] at h
      cases h
    | ok body =>
      refine ⟨a, body, rfl, htext, ?_⟩
      cases kind with
      | direct =>
        rw [resultOf, directResult, htext] at h
        cases h
        exact ⟨rfl, rfl⟩
      | bridge =>
        rw [resultOf, hostResult, htext] at h
        cases h
        exact ⟨rfl, rfl⟩

theorem responseOf_header? (hlower : ∀ e ∈ a.headers, Text.lowerAscii e.1 = e.1) (name : String) :
    (responseOf a body).header? name =
      (a.visibleHeaders.reverse.find? fun e => e.1 = Text.lowerAscii name).map (·.2) := by
  rw [Response.header?, responseOf, Response.make,
    Response.lowered_of_lower (visibleHeaders_lower hlower), Http.Headers.get?_ofList]

theorem Kind.execute_of_sendable (kind : Kind) (policy : RetryPolicy)
    (h : Network.prepare r = .ok out) (respond : σ → Outgoing → Delivery × σ) (server : σ) :
    ∃ d, (out, d) ∈ (kind.execute policy r).deliveries respond server ∧
      ((kind.execute policy r).run respond server).result =
        kind.resultOf r.url (d.arrival out.url) := by
  cases kind with
  | direct =>
    obtain ⟨hattempt, hsent⟩ := Network.attempt_of_sendable h respond server
    refine ⟨(respond server out).1, ?_, ?_⟩
    · simp [execute, Transport.direct, Plan.deliveries, hsent]
    · simp [execute, Transport.direct, Plan.run, Network.Run.after, hattempt, resultOf]
  | bridge =>
    obtain ⟨last, -, hsent, hend, -⟩ :=
      retrying_of_sendable h policy.retries policy.backoff respond server
    refine ⟨deliveryAt respond r out server last, ?_, ?_⟩
    · rw [execute, bridged_deliveries, hsent]
      exact List.mem_map_of_mem (List.mem_range.2 (Nat.lt_succ_self last))
    · rw [execute, bridged_run]
      exact congrArg (fun arrival => overBridge (hostResult r.url arrival)) hend

theorem Kind.execute_of_unsendable {f : Fault} (kind : Kind) (policy : RetryPolicy)
    (h : Network.prepare r = .error f) (respond : σ → Outgoing → Delivery × σ) (server : σ) :
    ((kind.execute policy r).run respond server).result = kind.resultOf r.url (.error f) := by
  cases kind with
  | direct =>
    obtain ⟨hattempt, -⟩ := Network.attempt_of_unsendable h respond server
    simp [execute, Transport.direct, Plan.run, Network.Run.after, hattempt, resultOf]
  | bridge =>
    rw [execute, bridged_run]
    exact congrArg (fun arrival => overBridge (hostResult r.url arrival))
      (retrying_of_unsendable h policy.retries policy.backoff respond server).2

theorem Kind.answer_of_response {kind : Kind} {server : σ} {response : Response}
    (h : ((kind.execute policy r).run respond server).result = .ok response) :
    ∃ out a body, (out, .answered a) ∈ (kind.execute policy r).deliveries respond server ∧
      a.text = .ok body ∧ response.status = a.status ∧ response.body = body := by
  cases hprepare : Network.prepare r with
  | error f =>
    rw [kind.execute_of_unsendable policy hprepare] at h
    obtain ⟨a, body, harrival, -⟩ := Kind.of_resultOf_ok h
    cases harrival
  | ok out =>
    obtain ⟨d, hd, hresult⟩ := kind.execute_of_sendable policy hprepare respond server
    rw [hresult] at h
    obtain ⟨a, body, harrival, htext, hstatus, hbody⟩ := Kind.of_resultOf_ok h
    cases d with
    | refused => cases harrival
    | dropped => cases harrival
    | answered a =>
      cases harrival
      exact ⟨out, a, body, hd, htext, hstatus, hbody⟩

theorem Kind.execute_of_answered (kind : Kind) (policy : RetryPolicy) {server : σ}
    (h : Network.prepare r = .ok out) (ha : (respond server out).1 = .answered a) :
    (kind.execute policy r).deliveries respond server = [(out, .answered a)] ∧
      (kind.execute policy r).run respond server =
        ⟨kind.resultOf r.url (.ok a), (respond server out).2, [.attempted r]⟩ := by
  obtain ⟨hattempt, hsent⟩ := Network.attempt_of_sendable h respond server
  rw [ha] at hattempt hsent
  cases kind with
  | direct =>
    simp [execute, Transport.direct, Plan.deliveries, Plan.run, Network.Run.after, hattempt, hsent,
      Delivery.arrival, resultOf]
  | bridge =>
    have hfirst : arrivalAt respond r server 0 = .ok a := by
      rw [arrivalAt, Network.served, hattempt, Delivery.arrival]
    have hlast : IsLast (arrivalAt respond r server) policy.retries 0 := isLast_of_ok hfirst
    obtain ⟨hrun, hdeliveries⟩ := retrying_run policy.backoff hlast
    refine ⟨?_, ?_⟩
    · rw [execute, bridged_deliveries, hdeliveries, sentAt?_range, Network.sentAt?,
        Network.served, hsent]
      rfl
    · rw [execute, bridged_run, hrun, hfirst, Network.served, Network.served, hattempt]
      rfl

/-- Where the first attempt is answered, both transports send the same once and give the same
response, its headers being the last visible ones of their names; or both fail, where the answer
breaks off. A transport none of whose attempts is answered fails, and a response is always that of
an answer. -/
theorem transports_agree (policy : RetryPolicy) (r : Request)
    (respond : σ → Outgoing → Delivery × σ) (server : σ) :
    (∀ out a, Network.prepare r = .ok out → (respond server out).1 = .answered a →
      (∀ e ∈ a.headers, Text.lowerAscii e.1 = e.1) →
      (∀ kind : Kind,
        (kind.execute policy r).deliveries respond server = [(out, .answered a)] ∧
        ((kind.execute policy r).run respond server).server = (respond server out).2 ∧
        ((kind.execute policy r).run respond server).moves = [.attempted r]) ∧
      (∀ body, a.text = .ok body → ∃ response : Response,
        (∀ kind : Kind, ((kind.execute policy r).run respond server).result = .ok response) ∧
        response.status = a.status ∧ response.statusText = Http.reasonOf a.status ∧
        response.body = body ∧ ∀ name, response.header? name =
          (a.visibleHeaders.reverse.find? fun e => e.1 = Text.lowerAscii name).map (·.2)) ∧
      (∀ f, a.text = .error f → ∀ kind : Kind, ∃ failure,
        ((kind.execute policy r).run respond server).result = .error failure)) ∧
    (∀ kind : Kind,
      (∀ d ∈ (kind.execute policy r).deliveries respond server, d.2.isAnswered = false) →
      ∃ failure, ((kind.execute policy r).run respond server).result = .error failure) ∧
    (∀ (kind : Kind) (response : Response),
      ((kind.execute policy r).run respond server).result = .ok response →
      ∃ out a body, (out, .answered a) ∈ (kind.execute policy r).deliveries respond server ∧
        a.text = .ok body ∧ response.status = a.status ∧ response.body = body) := by
  refine ⟨?_, ?_, ?_⟩
  · intro out a hout ha hlower
    refine ⟨?_, ?_, ?_⟩
    · intro kind
      obtain ⟨hdeliveries, hrun⟩ := kind.execute_of_answered policy hout ha
      exact ⟨hdeliveries, by rw [hrun], by rw [hrun]⟩
    · intro body htext
      refine ⟨responseOf a body, ?_, rfl, rfl, rfl, responseOf_header? hlower⟩
      intro kind
      rw [(kind.execute_of_answered policy hout ha).2]
      exact kind.resultOf_answer r.url htext hlower
    · intro f htext kind
      rw [(kind.execute_of_answered policy hout ha).2]
      exact kind.resultOf_brokenOff r.url htext
  · intro kind hunanswered
    cases hresult : ((kind.execute policy r).run respond server).result with
    | error failure => exact ⟨failure, rfl⟩
    | ok response =>
      obtain ⟨out, a, -, hmem, -⟩ := Kind.answer_of_response hresult
      have hanswered : (Delivery.answered a).isAnswered = false := hunanswered _ hmem
      cases hanswered
  · intro kind response hresponse
    exact Kind.answer_of_response hresponse

def Sample.asked : Request := .get "http://localhost:8080/objects"

def Sample.sentOut : Outgoing where
  method := .get
  secure := false
  host := .name "localhost".toList
  port := 8080
  target := "/objects"
  headers := []
  body := none
  url := "http://localhost:8080/objects"

def Sample.twofold : Script :=
  ⟨.name "localhost".toList, 8080,
    [.answer 404 [("X-Trace", "a"), ("Server", "é"), ("X-Trace", "b")] [] none], []⟩

def Sample.notFound : Arrival :=
  Script.arrivalOf 404 [("X-Trace", "a"), ("Server", "é"), ("X-Trace", "b")] [] none

/-- Of two headers with one name both transports take the second, and both drop one that is not
visible. -/
theorem headers_read_alike :
    ∃ response : Response,
      (∀ kind : Kind, ((kind.execute .default Sample.asked).run Script.respond
        Sample.twofold).result = .ok response) ∧
      response.status = 404 ∧ response.header? "X-TRACE" = some "b" ∧
      response.header? "Server" = none := by
  have hout : Network.prepare Sample.asked = .ok Sample.sentOut := by rfl
  have hanswer : (Script.respond Sample.twofold Sample.sentOut).1 = .answered Sample.notFound := by
    decide +kernel
  have hlower : ∀ e ∈ Sample.notFound.headers, Text.lowerAscii e.1 = e.1 := by decide +kernel
  obtain ⟨hanswered, -⟩ := transports_agree .default Sample.asked Script.respond Sample.twofold
  obtain ⟨-, hread, -⟩ := hanswered Sample.sentOut Sample.notFound hout hanswer hlower
  obtain ⟨response, hresult, hstatus, -, -, hheader⟩ := hread "" (by decide +kernel)
  refine ⟨response, hresult, hstatus, ?_, ?_⟩
  · rw [hheader]
    decide +kernel
  · rw [hheader]
    decide +kernel

end ClusterConsole.Transport
