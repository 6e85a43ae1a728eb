import ClusterConsole.Network.Script
import ClusterConsole.Proofs.Transport.Attempts

/-!
# What the host tries again

An answer of any kind ends the host's attempts, but everything short of one is tried again, a
connection that is dropped as well as one that is refused. After an attempt that was taken and then
dropped another may so be taken, and only after such a one. These are counted by attempts: the
redirects that a client follows are all within one.
-/

namespace ClusterConsole.Transport

open Http (Request)
open Network (Delivery Outgoing Plan Script)

variable {σ : Type} {respond : σ → Outgoing → Delivery × σ} {server : σ} {policy : RetryPolicy}
  {b : BridgeRequest}

/-- Where only the last delivery can be an answer, two of them are taken exactly if a server that
dropped one takes another. -/
theorem taken_once_iff {ds : List (Outgoing × Delivery)}
    (h : ∀ d ∈ ds.dropLast, d.2.isAnswered = false) :
    ds.countP (·.2.taken) ≤ 1 ↔ ds.Pairwise fun d d' => ¬(d.2 = .dropped ∧ d'.2.taken = true) := by
  induction ds with
  | nil => simp
  | cons d ds ih =>
    cases ds with
    | nil =>
      refine iff_of_true ?_ (List.pairwise_singleton _ d)
      exact List.countP_le_length
    | cons d' ds =>
      rw [List.dropLast_cons_cons, List.forall_mem_cons] at h
      obtain ⟨hd, htail⟩ := h
      rw [List.pairwise_cons, ← ih htail]
      cases hdelivery : d.2 with
      | answered a => simp [hdelivery, Delivery.isAnswered] at hd
      | refused => simp [List.countP_cons, hdelivery, Delivery.taken]
      | dropped =>
        have hcount : (d :: d' :: ds).countP (·.2.taken) = (d' :: ds).countP (·.2.taken) + 1 :=
          List.countP_cons_of_pos (by rw [hdelivery]; rfl)
        have hnone : (∀ x ∈ d' :: ds, ¬(Delivery.dropped = .dropped ∧ x.2.taken = true)) ↔
            (d' :: ds).countP (·.2.taken) = 0 := by
          simp [List.countP_eq_zero]
        rw [hcount, hnone]
        omega

theorem deliveries_of_unsent
    (h : ∀ r out, b.toRequest? = some r → Network.prepare r ≠ .ok out) :
    (hostExchange policy b).deliveries respond server = [] := by
  cases hrequest : b.toRequest? with
  | none =>
    rw [hostExchange_of_unsupported hrequest]
    rfl
  | some r =>
    rw [hostExchange_of_supported hrequest, Plan.map_deliveries]
    cases hprepare : Network.prepare r with
    | error f => exact (retrying_of_unsendable hprepare _ _ respond server).1
    | ok out => exact absurd hprepare (h r out hrequest)

theorem deliveries_of_sent {r : Request} {out : Outgoing} (hrequest : b.toRequest? = some r)
    (hprepare : Network.prepare r = .ok out) (policy : RetryPolicy)
    (respond : σ → Outgoing → Delivery × σ) (server : σ) :
    ∃ early d,
      (hostExchange policy b).deliveries respond server = early ++ [(out, d)] ∧
      ((hostExchange policy b).run respond server).result = hostResult b.url (d.arrival out.url) ∧
      (∀ x ∈ early, x.1 = out ∧ x.2.isAnswered = false) ∧ early.length ≤ policy.retries ∧
      (d.isAnswered = false → early.length = policy.retries) := by
  obtain ⟨last, hbounded, hsent, hend, hfailed, hended⟩ :=
    retrying_of_sendable hprepare policy.retries policy.backoff respond server
  rw [hostExchange_of_supported hrequest, Plan.map_deliveries, Plan.map_run]
  refine ⟨(List.range last).map fun n => (out, deliveryAt respond r out server n),
    deliveryAt respond r out server last, ?_, ?_, ?_, ?_, ?_⟩
  · rw [hsent, List.range_succ, List.map_append, List.map_singleton]
  · exact congrArg (hostResult b.url) hend
  · intro x hx
    obtain ⟨n, hn, rfl⟩ := List.mem_map.1 hx
    exact ⟨rfl, hfailed n (List.mem_range.1 hn)⟩
  · simpa using hbounded
  · intro hd
    have hnot : ¬last < policy.retries := fun hlt => by simp [hended hlt] at hd
    rw [List.length_map, List.length_range]
    omega

/-- The host attempts a supported request as it stands, as often as the policy allows, until
something answers, and ends with what the last attempt comes to. An answer that breaks off is an end
too. More than one attempt is taken exactly if a server that dropped one takes a later one. -/
theorem deliveries_until_answered (policy : RetryPolicy) (b : BridgeRequest)
    (respond : σ → Outgoing → Delivery × σ) (server : σ) :
    let ds := (hostExchange policy b).deliveries respond server
    let result := ((hostExchange policy b).run respond server).result
    (∀ d ∈ ds, ∃ r, b.toRequest? = some r ∧ Network.prepare r = .ok d.1) ∧
    (∀ r out, b.toRequest? = some r → Network.prepare r = .ok out → ds ≠ []) ∧
    ds.length ≤ max 1 policy.maxAttempts.toNat ∧
    (∀ d ∈ ds.dropLast, d.2.isAnswered = false) ∧
    (∀ d ∈ ds.getLast?, result = hostResult b.url (d.2.arrival d.1.url) ∧
      (d.2.isAnswered = false → ds.length = max 1 policy.maxAttempts.toNat)) ∧
    (ds.countP (·.2.taken) ≤ 1 ↔
      ds.Pairwise fun d d' => ¬(d.2 = .dropped ∧ d'.2.taken = true)) := by
  intro ds result
  have hlimit := policy.retries_succ
  by_cases hsent : ∃ r out, b.toRequest? = some r ∧ Network.prepare r = .ok out
  · obtain ⟨r, out, hrequest, hprepare⟩ := hsent
    obtain ⟨early, d, hds, hresult, hearly, hbounded, hended⟩ :=
      deliveries_of_sent hrequest hprepare policy respond server
    have hsplit : ds = early ++ [(out, d)] := hds
    have hlength : ds.length = early.length + 1 := by simp [hsplit]
    have hunanswered : ∀ x ∈ ds.dropLast, x.2.isAnswered = false := by
      rw [hsplit, List.dropLast_concat]
      exact fun x hx => (hearly x hx).2
    refine ⟨?_, ?_, by omega, hunanswered, ?_, taken_once_iff hunanswered⟩
    · intro x hx
      rw [hsplit] at hx
      rcases List.mem_append.1 hx with hx | hx
      · exact ⟨r, hrequest, (hearly x hx).1 ▸ hprepare⟩
      · exact ⟨r, hrequest, List.mem_singleton.1 hx ▸ hprepare⟩
    · intro _ _ _ _
      simp [hsplit]
    · intro x hx
      rw [hsplit, List.getLast?_concat, Option.mem_some_iff] at hx
      subst hx
      refine ⟨hresult, ?_⟩
      intro hd
      have hall := hended hd
      omega
  · have hnever : ∀ r out, b.toRequest? = some r → Network.prepare r ≠ .ok out :=
      fun r out hrequest hprepare => hsent ⟨r, out, hrequest, hprepare⟩
    have hds : ds = [] := deliveries_of_unsent hnever
    simpa [hds] using hnever

def Sample.posted : BridgeRequest := ⟨"http://localhost:8080/objects/search", "POST", none, none⟩

def Sample.forgetful : Script :=
  ⟨.name "localhost".toList, 8080, [.drop, .answer 200 [] [] none], []⟩

theorem dropped_request_sent_again :
    ((hostExchange ⟨2, 500⟩ Sample.posted).deliveries Script.respond Sample.forgetful).map
        (fun d => (d.1.method, d.1.target, d.2.taken)) =
      [(.post, "/objects/search", true), (.post, "/objects/search", true)] ∧
    ((hostExchange ⟨2, 500⟩ Sample.posted).run Script.respond
      Sample.forgetful).server.taken.length = 2 := by
  exact ⟨by decide +kernel, by decide +kernel⟩

end ClusterConsole.Transport
