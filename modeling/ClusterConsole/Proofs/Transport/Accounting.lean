import ClusterConsole.Proofs.Http.Headers
import ClusterConsole.Proofs.Transport.Attempts

/-!
# Accounting for retries

A server that fails a request so many times and would answer it then is tried until it answers or
the policy's attempts are spent, with a pause between any two attempts. The host can number its
attempts in 32 bits: it stops before the numbers do, whatever the policy.
-/

namespace ClusterConsole

namespace Http.Method

theorem ofName?_name (m : Method) : ofName? m.name = some m := by
  cases m <;> rfl

theorem ofName?_of_no_name {s : String} (h : s ∉ all.map name) : ofName? s = none := by
  rw [ofName?, List.find?_eq_none]
  intro m hm hname
  exact h (List.mem_map.2 ⟨m, hm, by simpa using hname⟩)

end Http.Method

namespace Network

def Move.isAttempt : Move → Bool
  | .attempted _ => true
  | .waited _ => false

end Network

namespace Transport

open Http (Method Request)
open Network (Arrival Delivery Fault Move Outgoing Plan arrivalAt)

def following? (n : UInt32) : Option UInt32 :=
  if n.toNat + 1 < UInt32.size then some (n + 1) else none

theorem following?_of_lt {n limit : UInt32} (h : n < limit) :
    ∃ m, following? n = some m ∧ m.toNat = n.toNat + 1 := by
  have hlt : n.toNat + 1 ≤ limit.toNat := UInt32.lt_iff_toNat_lt.1 h
  have hfits : n.toNat + 1 < UInt32.size := Nat.lt_of_le_of_lt hlt limit.toNat_lt
  refine ⟨n + 1, if_pos hfits, ?_⟩
  rw [UInt32.toNat_add]
  exact Nat.mod_eq_of_lt hfits

def RetryPolicy.limit (p : RetryPolicy) : UInt32 := if p.maxAttempts = 0 then 1 else p.maxAttempts

theorem RetryPolicy.limit_toNat (p : RetryPolicy) : p.limit.toNat = p.retries + 1 := by
  rw [limit, retries]
  split
  · next h => simp [h]
  · next h =>
    have hpos : p.maxAttempts.toNat ≠ 0 := fun hzero => h (UInt32.toNat_inj.1 hzero)
    omega

structure Tally where
  arrival : Except Fault Arrival
  attempts : UInt32

/-- Attempts with their numbers, from one number on. They end without a tally should the numbers
end first. -/
def numbered (r : Request) (backoff : Nat) (limit n : UInt32) : Plan (Option Tally) :=
  .attempt r fun
    | .ok a => .done (some ⟨.ok a, n⟩)
    | .error f =>
      if _hlimit : n < limit then
        match _hnext : following? n with
        | some m => .wait backoff (numbered r backoff limit m)
        | none => .done none
      else .done (some ⟨.error f, n⟩)
termination_by limit.toNat - n.toNat
decreasing_by
  obtain ⟨m', hm', hnat⟩ := following?_of_lt _hlimit
  rw [_hnext] at hm'
  cases hm'
  have hlt := UInt32.lt_iff_toNat_lt.1 _hlimit
  omega

variable {σ : Type} {respond : σ → Outgoing → Delivery × σ} {server : σ} {r : Request}
  {limit n m : UInt32} {backoff retries k : Nat} {a : Arrival}

theorem numbered_of_last (h : ¬n < limit) :
    numbered r backoff limit n = .attempt r fun arrival => .done (some ⟨arrival, n⟩) := by
  rw [numbered]
  congr 1
  funext arrival
  cases arrival with
  | ok a => rfl
  | error f => exact dif_neg h

theorem numbered_of_more (h : n < limit) (hnext : following? n = some m) :
    numbered r backoff limit n = .attempt r fun
      | .ok a => .done (some ⟨.ok a, n⟩)
      | .error _ => .wait backoff (numbered r backoff limit m) := by
  rw [numbered]
  congr 1
  funext arrival
  cases arrival with
  | ok a => rfl
  | error f =>
    simp only [h, dite_true]
    split
    · next m' hm' =>
      rw [hnext] at hm'
      cases hm'
      rfl
    · next hnone =>
      rw [hnext] at hnone
      cases hnone

/-- Numbering the attempts changes nothing about them, and the last number is their count. -/
theorem numbered_run (r : Request) (backoff : Nat) (respond : σ → Outgoing → Delivery × σ)
    (server : σ) (h : limit.toNat = n.toNat + retries) :
    let run := (retrying r backoff retries).run respond server
    ∃ last, last.toNat + 1 = n.toNat + run.moves.countP Move.isAttempt ∧
      (numbered r backoff limit n).run respond server =
        ⟨some ⟨run.result, last⟩, run.server, run.moves⟩ := by
  induction retries generalizing n server with
  | zero =>
    have hlast : ¬n < limit := by
      rw [UInt32.lt_iff_toNat_lt]
      omega
    refine ⟨n, rfl, ?_⟩
    rw [numbered_of_last hlast]
    rfl
  | succ retries ih =>
    have hmore : n < limit := by
      rw [UInt32.lt_iff_toNat_lt]
      omega
    obtain ⟨next, hnext, hnat⟩ := following?_of_lt hmore
    rw [numbered_of_more hmore hnext]
    cases harrival : (Network.attempt respond server r).1 with
    | ok a =>
      refine ⟨n, ?_, ?_⟩
      · simp [retrying, Plan.run, Network.Run.after, harrival, Move.isAttempt]
      · simp [retrying, Plan.run, Network.Run.after, harrival]
    | error f =>
      have hrest : limit.toNat = next.toNat + retries := by omega
      obtain ⟨last, hlast, hrun⟩ := ih (Network.attempt respond server r).2 hrest
      refine ⟨last, ?_, ?_⟩
      · rw [hlast, hnat]
        simp [retrying, Plan.run, Network.Run.after, harrival, List.countP_cons, Move.isAttempt]
        omega
      · simp [retrying, Plan.run, Network.Run.after, harrival, hrun]

theorem movesTo_eq (r : Request) (backoff last : Nat) :
    movesTo r backoff last =
      (List.replicate (last + 1) (Move.attempted r)).intersperse (.waited backoff) := by
  induction last with
  | zero => rfl
  | succ last ih =>
    rw [movesTo, ih, List.replicate_succ (n := last + 1), List.replicate_succ,
      List.intersperse_cons_cons]

theorem countP_movesTo (r : Request) (backoff last : Nat) :
    (movesTo r backoff last).countP Move.isAttempt = last + 1 := by
  induction last with
  | zero => rfl
  | succ last ih => simp [movesTo, List.countP_cons, ih, Move.isAttempt]

theorem countP_moves_le (r : Request) (backoff retries : Nat)
    (respond : σ → Outgoing → Delivery × σ) (server : σ) :
    ((retrying r backoff retries).run respond server).moves.countP Move.isAttempt ≤
      retries + 1 := by
  obtain ⟨last, hlast⟩ := exists_isLast (arrivalAt respond r server) retries
  rw [(retrying_run backoff hlast).1, countP_movesTo]
  exact Nat.succ_le_succ hlast.bounded

theorem isLast_of_answered {tape : Nat → Except Fault Arrival}
    (hfailed : ∀ n < k, ∃ f, tape n = .error f) (ha : tape k = .ok a) (retries : Nat) :
    IsLast tape retries (min k retries) := by
  refine ⟨Nat.min_le_right k retries, ?_, ?_⟩
  · intro n hn
    exact hfailed n (Nat.lt_of_lt_of_le hn (Nat.min_le_left k retries))
  · intro hlt
    have hk : min k retries = k := by omega
    exact ⟨a, by rw [hk, ha]⟩

variable {policy : RetryPolicy} {b : BridgeRequest}

theorem toRequest?_of_method {method : Method} (h : method.name = b.method) :
    b.toRequest? = some ⟨b.url, method, b.headers.getD .empty, b.body⟩ := by
  rw [BridgeRequest.toRequest?, ← h, Method.ofName?_name]
  rfl

theorem hostExchange_run (h : b.toRequest? = some r) (policy : RetryPolicy)
    (respond : σ → Outgoing → Delivery × σ) (server : σ) :
    let run := (retrying r policy.backoff policy.retries).run respond server
    (hostExchange policy b).run respond server =
      ⟨hostResult b.url run.result, run.server, run.moves⟩ := by
  rw [hostExchange_of_supported h, Plan.map_run]

theorem unsupported_run (h : b.method ∉ Method.all.map Method.name) :
    (hostExchange policy b).run respond server =
      ⟨.error ("Unsupported method: " ++ b.method), server, []⟩ := by
  have hnone : b.toRequest? = none := by
    rw [BridgeRequest.toRequest?, Method.ofName?_of_no_name h]
    rfl
  rw [hostExchange_of_unsupported hnone]
  rfl

/-- The response is the answer in the words of the bridge: of several visible headers with one name
it has the last. -/
structure BridgeResponse.Conveys (response : BridgeResponse) (a : Arrival) : Prop where
  status : response.status = a.status
  statusText : response.statusText = Http.reasonOf a.status
  header : ∀ name, response.headers.get? name =
    (a.visibleHeaders.reverse.find? fun e => e.1 = name).map (·.2)
  body : response.body = String.ofList (Text.utf8Lossy a.body)

theorem hostResult_whole (h : a.whole = true) (url : String) :
    ∃ response, hostResult url (.ok a) = .ok response ∧ response.Conveys a := by
  have htext : a.text = .ok (String.ofList (Text.utf8Lossy a.body)) := if_pos h
  refine ⟨_, by rw [hostResult, htext], rfl, rfl, ?_, rfl⟩
  exact Http.Headers.get?_ofList a.visibleHeaders

theorem hostResult_brokenOff (h : a.whole = false) (url : String) :
    hostResult url (.ok a) =
      .error ("Failed to read response body: " ++ Fault.brokenOff.message) := by
  have htext : a.text = .error .brokenOff := if_neg (by simp [h])
  rw [hostResult, htext]

theorem numbers_last (h : b.toRequest? = some r) :
    let run := (hostExchange policy b).run respond server
    ∃ tally, (numbered r policy.backoff policy.limit 1).run respond server =
        ⟨some tally, run.server, run.moves⟩ ∧
      run.result = hostResult b.url tally.arrival ∧
      tally.attempts.toNat = run.moves.countP Move.isAttempt ∧
      tally.attempts.toNat ≤ max 1 policy.maxAttempts.toNat := by
  have hstart : policy.limit.toNat = (1 : UInt32).toNat + policy.retries :=
    policy.limit_toNat.trans (Nat.add_comm _ _)
  obtain ⟨last, hlast, hnumbered⟩ :=
    numbered_run r policy.backoff respond server hstart
  have hcount := Nat.succ.inj (hlast.trans (Nat.add_comm _ _))
  rw [hostExchange_run h, ← policy.retries_succ]
  refine ⟨⟨_, last⟩, hnumbered, rfl, hcount, ?_⟩
  rw [hcount]
  exact countP_moves_le r policy.backoff policy.retries respond server

/-- A request with a method of another name is not attempted. One with a supported method, where `k`
attempts would fail and the next would be answered, is attempted `k + 1` times or as often as the
policy allows, with the policy's pause between any two attempts and with nothing behind the last. If
the answer is reached it ends with that, or with an error where the body breaks off, and else with
the error of the last attempt. On no server do the attempts outrun 32-bit numbers. -/
theorem attempts_accounted (policy : RetryPolicy) (b : BridgeRequest)
    (respond : σ → Outgoing → Delivery × σ) (server : σ) :
    let run := (hostExchange policy b).run respond server
    let limit := max 1 policy.maxAttempts.toNat
    (b.method ∉ Method.all.map Method.name →
      run = ⟨.error ("Unsupported method: " ++ b.method), server, []⟩) ∧
    ∀ method : Method, method.name = b.method →
      let r : Request := ⟨b.url, method, b.headers.getD .empty, b.body⟩
      (∀ k a, (∀ n < k, ∃ f, arrivalAt respond r server n = .error f) →
        arrivalAt respond r server k = .ok a →
        run.moves = (List.replicate (min (k + 1) limit) (Move.attempted r)).intersperse
          (.waited policy.backoff) ∧
        (k < limit → run.result = hostResult b.url (.ok a) ∧
          (a.whole = true → ∃ response, run.result = .ok response ∧ response.Conveys a) ∧
          (a.whole = false → run.result =
            .error ("Failed to read response body: " ++ Fault.brokenOff.message))) ∧
        (limit ≤ k → ∃ f, arrivalAt respond r server (limit - 1) = .error f ∧
          run.result = .error ("Request failed: " ++ f.message ++ " (url: " ++ b.url ++ ")"))) ∧
      ∃ tally, (numbered r policy.backoff policy.limit 1).run respond server =
          ⟨some tally, run.server, run.moves⟩ ∧
        run.result = hostResult b.url tally.arrival ∧
        tally.attempts.toNat = run.moves.countP Move.isAttempt ∧ tally.attempts.toNat ≤ limit := by
  intro run limit
  refine ⟨unsupported_run, ?_⟩
  intro method hmethod r
  have hrequest : b.toRequest? = some r := toRequest?_of_method hmethod
  have hlimit : limit = policy.retries + 1 := policy.retries_succ.symm
  refine ⟨?_, numbers_last hrequest⟩
  intro k a hfailed ha
  have hlast := isLast_of_answered hfailed ha policy.retries
  have hrun : run = ⟨hostResult b.url (arrivalAt respond r server (min k policy.retries)),
      Network.served respond r (min k policy.retries + 1) server,
      movesTo r policy.backoff (min k policy.retries)⟩ := by
    have hhost := hostExchange_run hrequest policy respond server
    rwa [(retrying_run policy.backoff hlast).1] at hhost
  rw [hrun]
  refine ⟨?_, ?_, ?_⟩
  · have hcount : min k policy.retries + 1 = min (k + 1) limit := by omega
    rw [movesTo_eq, hcount]
  · intro hlt
    have hend : min k policy.retries = k := by omega
    rw [hend, ha]
    exact ⟨rfl, fun hwhole => hostResult_whole hwhole b.url,
      fun hbroken => hostResult_brokenOff hbroken b.url⟩
  · intro hle
    have hend : min k policy.retries = limit - 1 := by omega
    obtain ⟨f, hf⟩ := hfailed (limit - 1) (by omega)
    refine ⟨f, hf, ?_⟩
    rw [hend, hf]
    rfl

/-- A server that is about to start: it refuses so many requests and answers all that come then. -/
def Sample.starting (answer : Arrival) (refusals : Nat) (_ : Outgoing) : Delivery × Nat :=
  match refusals with
  | 0 => (.answered answer, 0)
  | n + 1 => (.refused, n)

/-- An answer with two headers of one name and one that is not visible. -/
def Sample.gone (whole : Bool) : Arrival :=
  ⟨410, [("x-trace", [0x61]), ("server", [0xE9]), ("x-trace", [0x62])], [0x6E, 0x6F], whole⟩

def Sample.removal : BridgeRequest :=
  ⟨"http://localhost:8080/objects/7", "DELETE", none, some "now"⟩

def Sample.removalSent : Request :=
  ⟨"http://localhost:8080/objects/7", .delete, .empty, some "now"⟩

theorem Sample.starting_arrivals (a : Arrival) :
    (∀ n < 2, ∃ f, arrivalAt (Sample.starting a) Sample.removalSent 2 n = .error f) ∧
      arrivalAt (Sample.starting a) Sample.removalSent 2 2 = .ok a := by
  refine ⟨?_, rfl⟩
  intro n hn
  obtain rfl | rfl : n = 0 ∨ n = 1 := by omega
  · exact ⟨_, rfl⟩
  · exact ⟨_, rfl⟩

/-- Two refusals are outlasted by three attempts, and not by the one that a policy of none makes. -/
theorem started_in_time :
    let run := fun policy whole =>
      (hostExchange policy Sample.removal).run (Sample.starting (Sample.gone whole)) 2
    (run ⟨3, 500⟩ true).moves =
      [.attempted Sample.removalSent, .waited 500, .attempted Sample.removalSent, .waited 500,
        .attempted Sample.removalSent] ∧
    (∃ response, (run ⟨3, 500⟩ true).result = .ok response ∧ response.status = 410 ∧
      response.statusText = "Gone" ∧ response.headers.get? "x-trace" = some "b" ∧
      response.headers.get? "server" = none ∧ response.body = "no") ∧
    (run ⟨3, 500⟩ false).result =
      .error "Failed to read response body: error decoding response body" ∧
    (run ⟨0, 500⟩ true).moves = [.attempted Sample.removalSent] ∧
    (run ⟨0, 500⟩ true).result = .error ("Request failed: error sending request for url " ++
      "(http://localhost:8080/objects/7) (url: http://localhost:8080/objects/7)") := by
  intro run
  obtain ⟨hfailed, hanswered⟩ := Sample.starting_arrivals (Sample.gone true)
  obtain ⟨hfailed', hanswered'⟩ := Sample.starting_arrivals (Sample.gone false)
  obtain ⟨-, hpatient⟩ := attempts_accounted ⟨3, 500⟩ Sample.removal
    (Sample.starting (Sample.gone true)) 2
  obtain ⟨hmoves, hanswer, -⟩ := (hpatient .delete rfl).1 2 _ hfailed hanswered
  obtain ⟨-, hwhole, -⟩ := hanswer (by decide)
  obtain ⟨response, hresponse, hconveys⟩ := hwhole rfl
  obtain ⟨-, hbroken⟩ := attempts_accounted ⟨3, 500⟩ Sample.removal
    (Sample.starting (Sample.gone false)) 2
  obtain ⟨-, hanswer', -⟩ := (hbroken .delete rfl).1 2 _ hfailed' hanswered'
  obtain ⟨-, -, hbroken⟩ := hanswer' (by decide)
  obtain ⟨-, hhasty⟩ := attempts_accounted ⟨0, 500⟩ Sample.removal
    (Sample.starting (Sample.gone true)) 2
  obtain ⟨hmoves', -, herror⟩ := (hhasty .delete rfl).1 2 _ hfailed hanswered
  obtain ⟨f, hf, hmessage⟩ := herror (by decide)
  refine ⟨hmoves, ⟨response, hresponse, hconveys.status, ?_, ?_, ?_, ?_⟩, ?_, hmoves', ?_⟩
  · rw [hconveys.statusText]
    decide
  · rw [hconveys.header]
    decide
  · rw [hconveys.header]
    decide
  · rw [hconveys.body]
    decide
  · exact hbroken rfl
  · cases hf
    exact hmessage

end Transport

end ClusterConsole
