import ClusterConsole.Transport.Exchange

/-!
# Attempts at a request

What a plan hands over to be sent, and how the host spends its attempts. All of them are at the same
request, so what they come to depends on the server alone, and on the client before it: the host
stops at the first attempt that is answered, and after the last of its retries in any case.
-/

namespace ClusterConsole

namespace Network

open Http (Request)

variable {σ α β : Type} {respond : σ → Outgoing → Delivery × σ} {r : Request} {server : σ}

def sent? (respond : σ → Outgoing → Delivery × σ) (server : σ) (r : Request) :
    Option (Outgoing × Delivery) :=
  match prepare r with
  | .error _ => none
  | .ok out => some (out, (respond server out).1)

def Delivery.isAnswered : Delivery → Bool
  | .refused => false
  | .dropped => false
  | .answered _ => true

theorem Delivery.arrival_error_iff {url : String} {d : Delivery} :
    (∃ f, d.arrival url = .error f) ↔ d.isAnswered = false := by
  cases d <;> simp [arrival, isAnswered]

theorem Delivery.arrival_ok_iff {url : String} {d : Delivery} :
    (∃ a, d.arrival url = .ok a) ↔ d.isAnswered = true := by
  cases d <;> simp [arrival, isAnswered]

theorem attempt_of_unsendable {f : Fault} (h : prepare r = .error f)
    (respond : σ → Outgoing → Delivery × σ) (server : σ) :
    attempt respond server r = (.error f, server) ∧ sent? respond server r = none := by
  simp [attempt, sent?, h]

theorem attempt_of_sendable {out : Outgoing} (h : prepare r = .ok out)
    (respond : σ → Outgoing → Delivery × σ) (server : σ) :
    attempt respond server r =
        ((respond server out).1.arrival out.url, (respond server out).2) ∧
      sent? respond server r = some (out, (respond server out).1) := by
  simp [attempt, sent?, h]

namespace Plan

def deliveries (respond : σ → Outgoing → Delivery × σ) :
    Plan α → σ → List (Outgoing × Delivery)
  | done _, _ => []
  | attempt r next, server =>
    let (arrival, after) := Network.attempt respond server r
    (sent? respond server r).toList ++ (next arrival).deliveries respond after
  | wait _ next, server => next.deliveries respond server

theorem map_deliveries (f : α → β) (p : Plan α) (server : σ) :
    (p.map f).deliveries respond server = p.deliveries respond server := by
  induction p generalizing server with
  | done a => rfl
  | attempt r next ih => simp [map, deliveries, ih]
  | wait ms next ih => simp [map, deliveries, ih]

end Plan

def recorded (respond : σ → Outgoing → Delivery × σ) (s : σ × List (Outgoing × Delivery))
    (out : Outgoing) : Delivery × σ × List (Outgoing × Delivery) :=
  let (d, server) := respond s.1 out
  (d, server, s.2 ++ [(out, d)])

theorem attempt_recorded (respond : σ → Outgoing → Delivery × σ) (server : σ)
    (record : List (Outgoing × Delivery)) (r : Request) :
    attempt (recorded respond) (server, record) r =
      ((attempt respond server r).1, (attempt respond server r).2,
        record ++ (sent? respond server r).toList) := by
  cases h : prepare r with
  | error f => simp [attempt, sent?, h]
  | ok out => simp [attempt, sent?, recorded, h]

/-- The deliveries of a plan are what its run leaves in the server's record. -/
theorem Plan.run_recorded (p : Plan α) (respond : σ → Outgoing → Delivery × σ) (server : σ)
    (record : List (Outgoing × Delivery)) :
    p.run (recorded respond) (server, record) =
      ⟨(p.run respond server).result,
        ((p.run respond server).server, record ++ p.deliveries respond server),
        (p.run respond server).moves⟩ := by
  induction p generalizing server record with
  | done a => simp [run, deliveries]
  | attempt r next ih => simp [run, deliveries, attempt_recorded, ih, Run.after]
  | wait ms next ih => simp [run, deliveries, ih, Run.after]

def served (respond : σ → Outgoing → Delivery × σ) (r : Request) : Nat → σ → σ
  | 0, server => server
  | n + 1, server => served respond r n (attempt respond server r).2

def arrivalAt (respond : σ → Outgoing → Delivery × σ) (r : Request) (server : σ) (n : Nat) :
    Except Fault Arrival :=
  (attempt respond (served respond r n server) r).1

def sentAt? (respond : σ → Outgoing → Delivery × σ) (r : Request) (server : σ) (n : Nat) :
    Option (Outgoing × Delivery) :=
  sent? respond (served respond r n server) r

end Network

namespace Transport

open Http (Request)
open Network (Arrival Delivery Fault Move Outgoing Plan Run arrivalAt sentAt? served)

variable {σ : Type} {respond : σ → Outgoing → Delivery × σ} {r : Request} {server : σ}
  {tape : Nat → Except Fault Arrival} {retries last : Nat}

/-- Of attempts that come to what the tape says, the one that is not repeated. -/
structure IsLast (tape : Nat → Except Fault Arrival) (retries last : Nat) : Prop where
  bounded : last ≤ retries
  failed : ∀ n < last, ∃ f, tape n = .error f
  ended : last < retries → ∃ a, tape last = .ok a

theorem isLast_zero_iff : IsLast tape 0 last ↔ last = 0 := by
  refine ⟨fun h => by have := h.bounded; omega, ?_⟩
  rintro rfl
  exact ⟨Nat.le_refl 0, fun n hn => absurd hn (Nat.not_lt_zero n), fun h => absurd h (by simp)⟩

theorem isLast_of_ok {a : Arrival} (h : tape 0 = .ok a) : IsLast tape retries 0 :=
  ⟨Nat.zero_le _, fun n hn => absurd hn (Nat.not_lt_zero n), fun _ => ⟨a, h⟩⟩

theorem isLast_succ_iff {f : Fault} (h : tape 0 = .error f) :
    IsLast tape (retries + 1) (last + 1) ↔ IsLast (fun n => tape (n + 1)) retries last := by
  refine ⟨?_, ?_⟩
  · rintro ⟨hbounded, hfailed, hended⟩
    exact ⟨by omega, fun n hn => hfailed (n + 1) (by omega), fun hlt => hended (by omega)⟩
  · rintro ⟨hbounded, hfailed, hended⟩
    refine ⟨by omega, ?_, fun hlt => hended (by omega)⟩
    intro n hn
    cases n with
    | zero => exact ⟨f, h⟩
    | succ n => exact hfailed n (by omega)

theorem exists_isLast (tape : Nat → Except Fault Arrival) (retries : Nat) :
    ∃ last, IsLast tape retries last := by
  induction retries generalizing tape with
  | zero => exact ⟨0, isLast_zero_iff.2 rfl⟩
  | succ retries ih =>
    cases h : tape 0 with
    | ok a => exact ⟨0, isLast_of_ok h⟩
    | error f =>
      obtain ⟨last, hlast⟩ := ih fun n => tape (n + 1)
      exact ⟨last + 1, (isLast_succ_iff h).2 hlast⟩

def movesTo (r : Request) (backoff : Nat) : Nat → List Move
  | 0 => [.attempted r]
  | n + 1 => .attempted r :: .waited backoff :: movesTo r backoff n

theorem sentAt?_range (last : Nat) :
    (List.range (last + 1)).filterMap (sentAt? respond r server) =
      (sentAt? respond r server 0).toList ++
        (List.range last).filterMap fun n => sentAt? respond r server (n + 1) := by
  rw [List.range_succ_eq_map, List.filterMap_cons, List.filterMap_map]
  cases sentAt? respond r server 0 <;> rfl

theorem retrying_run (backoff : Nat) (h : IsLast (arrivalAt respond r server) retries last) :
    (retrying r backoff retries).run respond server =
        ⟨arrivalAt respond r server last, served respond r (last + 1) server,
          movesTo r backoff last⟩ ∧
      (retrying r backoff retries).deliveries respond server =
        (List.range (last + 1)).filterMap (sentAt? respond r server) := by
  induction retries generalizing server last with
  | zero =>
    rw [isLast_zero_iff.1 h, sentAt?_range]
    exact ⟨rfl, rfl⟩
  | succ retries ih =>
    cases hfirst : arrivalAt respond r server 0 with
    | ok a =>
      have hlast : last = 0 := by
        refine Nat.eq_zero_of_not_pos fun hpos => ?_
        obtain ⟨f, hf⟩ := h.failed 0 hpos
        rw [hf] at hfirst
        cases hfirst
      have hanswer : (Network.attempt respond server r).1 = .ok a := hfirst
      rw [hlast, sentAt?_range]
      simp [retrying, Plan.run, Plan.deliveries, Run.after, hanswer, hfirst, movesTo, served,
        sentAt?]
    | error f =>
      have hfault : (Network.attempt respond server r).1 = .error f := hfirst
      cases last with
      | zero =>
        obtain ⟨a, ha⟩ := h.ended (Nat.succ_pos retries)
        rw [ha] at hfirst
        cases hfirst
      | succ last =>
        have hrest : IsLast (arrivalAt respond r (Network.attempt respond server r).2)
            retries last := (isLast_succ_iff hfirst).1 h
        obtain ⟨hrun, hdeliveries⟩ := ih hrest
        rw [sentAt?_range]
        simp only [retrying, Plan.run, Plan.deliveries, Run.after, hfault, hrun, hdeliveries]
        exact ⟨rfl, rfl⟩

def deliveryAt (respond : σ → Outgoing → Delivery × σ) (r : Request) (out : Outgoing) (server : σ)
    (n : Nat) : Delivery :=
  (respond (served respond r n server) out).1

theorem arrivalAt_of_sendable {out : Outgoing} (h : Network.prepare r = .ok out) :
    arrivalAt respond r server = fun n => (deliveryAt respond r out server n).arrival out.url := by
  funext n
  rw [arrivalAt, (Network.attempt_of_sendable h _ _).1, deliveryAt]

theorem retrying_of_sendable {out : Outgoing} (h : Network.prepare r = .ok out)
    (retries backoff : Nat) (respond : σ → Outgoing → Delivery × σ) (server : σ) :
    ∃ last ≤ retries,
      (retrying r backoff retries).deliveries respond server =
        (List.range (last + 1)).map (fun n => (out, deliveryAt respond r out server n)) ∧
      ((retrying r backoff retries).run respond server).result =
        (deliveryAt respond r out server last).arrival out.url ∧
      (∀ n < last, (deliveryAt respond r out server n).isAnswered = false) ∧
      (last < retries → (deliveryAt respond r out server last).isAnswered = true) := by
  obtain ⟨last, hlast⟩ := exists_isLast (arrivalAt respond r server) retries
  obtain ⟨hrun, hdeliveries⟩ := retrying_run backoff hlast
  have hsent : sentAt? respond r server = fun n =>
      some (out, deliveryAt respond r out server n) := by
    funext n
    rw [sentAt?, (Network.attempt_of_sendable h _ _).2, deliveryAt]
  rw [arrivalAt_of_sendable h] at hlast hrun
  refine ⟨last, hlast.bounded, ?_, ?_, ?_, ?_⟩
  · rw [hdeliveries, hsent, List.filterMap_eq_map']
  · rw [hrun]
  · exact fun n hn => Delivery.arrival_error_iff.1 (hlast.failed n hn)
  · exact fun hn => Delivery.arrival_ok_iff.1 (hlast.ended hn)

theorem retrying_of_unsendable {f : Fault} (h : Network.prepare r = .error f)
    (retries backoff : Nat) (respond : σ → Outgoing → Delivery × σ) (server : σ) :
    (retrying r backoff retries).deliveries respond server = [] ∧
      ((retrying r backoff retries).run respond server).result = .error f := by
  obtain ⟨last, hlast⟩ := exists_isLast (arrivalAt respond r server) retries
  obtain ⟨hrun, hdeliveries⟩ := retrying_run backoff hlast
  refine ⟨?_, ?_⟩
  · rw [hdeliveries, List.filterMap_eq_nil_iff]
    exact fun n _ => (Network.attempt_of_unsendable h _ _).2
  · rw [hrun, arrivalAt, (Network.attempt_of_unsendable h _ _).1]

variable {policy : RetryPolicy} {b : BridgeRequest}

theorem RetryPolicy.retries_succ (policy : RetryPolicy) :
    policy.retries + 1 = max 1 policy.maxAttempts.toNat := by
  rw [retries]
  omega

theorem hostExchange_of_unsupported (h : b.toRequest? = none) :
    hostExchange policy b = .done (.error ("Unsupported method: " ++ b.method)) := by
  rw [hostExchange, h]

theorem hostExchange_of_supported (h : b.toRequest? = some r) :
    hostExchange policy b =
      (retrying r policy.backoff policy.retries).map (hostResult b.url) := by
  rw [hostExchange, h]

end Transport

end ClusterConsole
