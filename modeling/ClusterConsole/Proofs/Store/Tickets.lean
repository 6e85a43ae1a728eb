import ClusterConsole.Proofs.Store.Window

/-!
# Tickets age

Three operations raise the generation of a store and the others keep it, so that the generation
counts them. A ticket is current as long as it has not been raised since the ticket was handed out,
and stale from then on.
-/

namespace ClusterConsole.Store

variable {s : Store} {os : List Operation}

def Operation.raises : Operation → Bool
  | .begin => true
  | .invalidate => true
  | .clear => true
  | _ => false

theorem generation_step (s : Store) (o : Operation) :
    (step s o).generation = s.generation + if o.raises then 1 else 0 := by
  cases o with
  | replace t records =>
    rw [step, replace]
    split <;> rfl
  | fail t message =>
    rw [step, fail]
    split <;> rfl
  | _ => rfl

theorem run_cons (s : Store) (o : Operation) (os : List Operation) :
    run s (o :: os) = run (step s o) os := rfl

theorem generation_run (s : Store) (os : List Operation) :
    (run s os).generation = s.generation + os.countP Operation.raises := by
  induction os generalizing s with
  | nil => rfl
  | cons o os ih =>
    rw [run_cons, ih, generation_step, List.countP_cons]
    omega

/-- A ticket that a store handed out, and what was done to the store later. -/
structure Handout where
  ticket : Ticket
  later : List Operation

def handouts (s : Store) : List Operation → List Handout
  | [] => []
  | .begin :: os => ⟨s.begin.1, os⟩ :: handouts (step s .begin) os
  | o :: os => handouts (step s o) os

theorem handouts_begin (s : Store) (os : List Operation) :
    handouts s (.begin :: os) = ⟨s.begin.1, os⟩ :: handouts (step s .begin) os := rfl

variable {h : Handout}

theorem generation_of_mem_handouts (hmem : h ∈ handouts s os) :
    s.generation < h.ticket.generation ∧
      h.ticket.generation + h.later.countP Operation.raises = (run s os).generation := by
  induction os generalizing s with
  | nil => cases hmem
  | cons o os ih =>
    have hstep := generation_step s o
    cases o with
    | begin =>
      rcases List.mem_cons.1 hmem with rfl | hmem
      · exact ⟨Nat.lt_succ_self _, (generation_run (step s .begin) os).symm⟩
      · obtain ⟨hnewer, hcount⟩ := ih hmem
        exact ⟨by omega, hcount⟩
    | _ =>
      obtain ⟨hnewer, hcount⟩ := ih hmem
      exact ⟨by omega, hcount⟩

theorem handouts_ascending (s : Store) (os : List Operation) :
    (handouts s os).Pairwise fun h h' => h.ticket.generation < h'.ticket.generation := by
  induction os generalizing s with
  | nil => exact .nil
  | cons o os ih =>
    cases o with
    | begin =>
      refine .cons ?_ (ih _)
      intro h hmem
      exact (generation_of_mem_handouts hmem).1
    | _ => exact ih _

theorem handouts_eq_nil_iff : handouts s os = [] ↔ .begin ∉ os := by
  induction os generalizing s with
  | nil => simp [handouts]
  | cons o os ih => cases o <;> simp [handouts, ih]

theorem getLast?_cons_eq_self_iff {α : Type} {a : α} {as : List α} (h : a ∉ as) :
    (a :: as).getLast? = some a ↔ as = [] := by
  cases as with
  | nil => simp
  | cons b as =>
    rw [List.getLast?_cons_cons]
    exact iff_of_false (fun hlast => h (List.mem_of_getLast? hlast)) (List.cons_ne_nil b as)

theorem getLast?_handouts_iff (hmem : h ∈ handouts s os) :
    (handouts s os).getLast? = some h ↔ .begin ∉ h.later := by
  induction os generalizing s with
  | nil => cases hmem
  | cons o os ih =>
    cases o with
    | begin =>
      rw [handouts_begin] at hmem ⊢
      rcases List.mem_cons.1 hmem with rfl | hmem
      · have hnew : Handout.mk s.begin.1 os ∉ handouts (step s .begin) os :=
          fun hold => Nat.lt_irrefl _ (generation_of_mem_handouts hold).1
        rw [getLast?_cons_eq_self_iff hnew, handouts_eq_nil_iff]
      · rw [← ih hmem, List.getLast?_cons_of_ne_nil (List.ne_nil_of_mem hmem)]
    | _ => exact ih hmem

theorem raises_iff {o : Operation} :
    o.raises = true ↔ o = .begin ∨ o = .invalidate ∨ o = .clear := by
  cases o <;> simp [Operation.raises]

theorem isCurrent_iff {t : Ticket} : s.isCurrent t = true ↔ t.generation = s.generation :=
  beq_iff_eq

theorem isCurrent_iff_not_raised (hmem : h ∈ handouts s os) :
    (run s os).isCurrent h.ticket = true ↔
      .begin ∉ h.later ∧ .invalidate ∉ h.later ∧ .clear ∉ h.later := by
  obtain ⟨-, hcount⟩ := generation_of_mem_handouts hmem
  have hnone : (run s os).isCurrent h.ticket = true ↔ h.later.countP Operation.raises = 0 := by
    rw [isCurrent_iff]
    omega
  rw [hnone, List.countP_eq_zero]
  simp only [raises_iff]
  constructor
  · intro hnot
    exact ⟨fun ho => hnot _ ho (.inl rfl), fun ho => hnot _ ho (.inr (.inl rfl)),
      fun ho => hnot _ ho (.inr (.inr rfl))⟩
  · rintro ⟨hbegin, hinvalidate, hclear⟩ o ho (rfl | rfl | rfl)
    · exact hbegin ho
    · exact hinvalidate ho
    · exact hclear ho

theorem run_append (s : Store) (os more : List Operation) :
    run s (os ++ more) = run (run s os) more := List.foldl_append

theorem generation_le_run (s : Store) (os : List Operation) :
    s.generation ≤ (run s os).generation := by
  rw [generation_run]
  exact Nat.le_add_right _ _

theorem stale_of_older {t : Ticket} (h : t.generation < s.generation) : s.isCurrent t = false := by
  rw [Bool.eq_false_iff, ne_eq, isCurrent_iff]
  omega

theorem stale_iff_older (hmem : h ∈ handouts s os) :
    (run s os).isCurrent h.ticket = false ↔ h.ticket.generation < (run s os).generation := by
  obtain ⟨-, hcount⟩ := generation_of_mem_handouts hmem
  rw [Bool.eq_false_iff, ne_eq, isCurrent_iff]
  omega

/-- Of the tickets that a store hands out each is newer than those before it. One is current exactly
if it is the last of them and the store was neither invalidated nor emptied since; so one at most
is, and one that is stale stays so. A result or a failure that comes with a stale ticket leaves the
store as it is. -/
theorem tickets_age (s : Store) (os : List Operation) :
    let hs := handouts s os
    (hs.Pairwise fun h h' => h.ticket.generation < h'.ticket.generation) ∧
    (∀ h ∈ hs, ∀ h' ∈ hs, (run s os).isCurrent h.ticket = true →
      (run s os).isCurrent h'.ticket = true → h = h') ∧
    (∀ h ∈ hs, (run s os).isCurrent h.ticket = true ↔
      hs.getLast? = some h ∧ .invalidate ∉ h.later ∧ .clear ∉ h.later) ∧
    (∀ h ∈ hs, (run s os).isCurrent h.ticket = false →
      ∀ more, (run s (os ++ more)).isCurrent h.ticket = false) ∧
    ∀ t, (run s os).isCurrent t = false →
      (∀ records, (run s os).replace t records = (.stale, run s os)) ∧
      ∀ message, (run s os).fail t message = (.stale, run s os) := by
  intro hs
  have hcurrent : ∀ h ∈ hs, (run s os).isCurrent h.ticket = true ↔
      hs.getLast? = some h ∧ .invalidate ∉ h.later ∧ .clear ∉ h.later := by
    intro h hmem
    rw [isCurrent_iff_not_raised hmem, getLast?_handouts_iff hmem]
  refine ⟨handouts_ascending s os, ?_, hcurrent, ?_, ?_⟩
  · intro h hmem h' hmem' hh hh'
    obtain ⟨hlast, -⟩ := (hcurrent h hmem).1 hh
    obtain ⟨hlast', -⟩ := (hcurrent h' hmem').1 hh'
    exact Option.some.inj (hlast.symm.trans hlast')
  · intro h hmem hstale more
    have holder := (stale_iff_older hmem).1 hstale
    rw [run_append]
    exact stale_of_older (Nat.lt_of_lt_of_le holder (generation_le_run _ more))
  · intro t ht
    exact ⟨replace_of_stale ht, fail_of_stale ht⟩

def Sample.aging : List Operation :=
  [.begin, .begin, .replace ⟨1⟩ (Sample.rows ["a"]), .invalidate, .begin, .fail ⟨3⟩ "late"]

def Sample.second : Handout := ⟨⟨2⟩, Sample.aging.drop 2⟩

def Sample.third : Handout := ⟨⟨4⟩, Sample.aging.drop 5⟩

/-- The second of three tickets was stale before the third was handed out. -/
theorem invalidated_ticket_stays_stale :
    let s := run (new 10) Sample.aging
    (Sample.second ∈ handouts (new 10) Sample.aging ∧ s.isCurrent ⟨2⟩ = false ∧
      (run (new 10) (Sample.aging ++ [.clear, .begin])).isCurrent ⟨2⟩ = false ∧
      s.replace ⟨2⟩ (Sample.rows ["b"]) = (.stale, s)) ∧
    Sample.third ∈ handouts (new 10) Sample.aging ∧ s.isCurrent ⟨4⟩ = true := by
  obtain ⟨-, -, hcurrent, hstays, hstale⟩ := tickets_age (new 10) Sample.aging
  have hsecond : Sample.second ∈ handouts (new 10) Sample.aging := .tail _ (.head _)
  have hthird : Sample.third ∈ handouts (new 10) Sample.aging := .tail _ (.tail _ (.head _))
  have hold : (run (new 10) Sample.aging).isCurrent ⟨2⟩ = false := by decide
  obtain ⟨hreplace, -⟩ := hstale _ hold
  refine ⟨⟨hsecond, hold, hstays _ hsecond hold _, hreplace _⟩, hthird, ?_⟩
  exact (hcurrent _ hthird).2 ⟨rfl, by simp [Sample.third, Sample.aging],
    by simp [Sample.third, Sample.aging]⟩

end ClusterConsole.Store
