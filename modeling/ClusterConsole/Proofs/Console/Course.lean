import ClusterConsole.Console.Command
import ClusterConsole.Proofs.Objects.Payload

/-!
# The course of a walk

What a walk over a listing gets is decided by the replies: payloads up to the first that does not go
on, to a failure, or to as many as it may have. How many requests that takes, and what each of them
asks for, is read off the payloads.
-/

namespace ClusterConsole.Console

open Backend (Failure Reply)
open Engine (Config)
open Json (Value)

namespace Listing

def searches (l : Listing) : Bool := !l.filters.active.isEmpty

def query (l : Listing) (config : Config) (after : Option String) : Query :=
  ⟨l.className, config.options.fetchPageSize, .select l.filters after⟩

def payload (l : Listing) (reply : Reply) : Except Failure Payload := do
  let response ← reply.response?
  let body ← Backend.openEnvelope response
  return .ofBody body l.className

/-- The id that a listing goes on after; a search is one page. -/
def next? (l : Listing) (config : Config) (p : Payload) : Option String :=
  if l.searches then none
  else (Cursor.ofPage p.records p.itemCount config.options.fetchPageSize.toNat).id?

def document (l : Listing) (config : Config) (number : Nat) (p : Payload) : Value :=
  .object [("page", .number (.natural number.toUInt64)), ("searchMode", .bool l.searches),
    ("capped", .bool l.searches), ("hasMore", .bool (l.next? config p).isSome),
    ("total", .number (.natural p.records.length.toUInt64)),
    ("ok", .array (p.records.map Record.toJson))]

variable {l : Listing} {config : Config} {c : Connection} {p : Payload} {id : String}

theorem searches_of_active (h : l.filters.active ≠ []) : l.searches = true := by
  simpa [searches] using h

theorem next?_of_active (h : l.filters.active ≠ []) (p : Payload) : l.next? config p = none :=
  if_pos (searches_of_active h)

theorem next?_eq_some (h : l.next? config p = some id) :
    l.filters.active = [] ∧ ∃ last, p.records.getLast? = some last ∧ last.id = id := by
  by_cases hactive : l.filters.active = []
  · rw [next?, searches, hactive] at h
    cases hc : Cursor.ofPage p.records p.itemCount config.options.fetchPageSize.toNat with
    | start =>
      rw [hc] at h
      cases h
    | after place =>
      rw [hc] at h
      cases h
      obtain ⟨last, hlast, -, -, rfl⟩ := Cursor.ofPage_eq_after.1 hc
      exact ⟨hactive, last, hlast, rfl⟩
  · rw [next?_of_active hactive] at h
    cases h

end Listing

/-- The payloads a walk gets, and the failure that ends it if one does. -/
structure Course where
  payloads : List Payload
  failure : Option Failure

namespace Course

variable (l : Listing) (config : Config) (replies : Nat → Reply)

def of : (left k : Nat) → Course
  | 0, _ => ⟨[], none⟩
  | left + 1, k =>
    match l.payload (replies k) with
    | .error f => ⟨[], some f⟩
    | .ok p =>
      if (l.next? config p).isSome then
        { of left (k + 1) with payloads := p :: (of left (k + 1)).payloads }
      else ⟨[p], none⟩

def size (course : Course) : Nat :=
  course.payloads.length + if course.failure.isSome then 1 else 0

/-- The places that the requests of a course name, the first of them `after`. -/
def places (course : Course) (after : Option String) : List (Option String) :=
  (after :: course.payloads.map (l.next? config)).take course.size

def result {α : Type} (course : Course) (a : α) : Except Complaint α :=
  match course.failure with
  | none => .ok a
  | some f => .error (.backend f)

variable {l config replies} {left k i : Nat} {f : Failure} {p : Payload}

theorem of_error (h : l.payload (replies k) = .error f) :
    of l config replies (left + 1) k = ⟨[], some f⟩ := by
  rw [of, h]

theorem of_last (h : l.payload (replies k) = .ok p) (hnext : l.next? config p = none) :
    of l config replies (left + 1) k = ⟨[p], none⟩ := by
  rw [of, h]
  exact if_neg (by simp [hnext])

theorem of_more (h : l.payload (replies k) = .ok p) {id : String}
    (hnext : l.next? config p = some id) :
    of l config replies (left + 1) k =
      ⟨p :: (of l config replies left (k + 1)).payloads,
        (of l config replies left (k + 1)).failure⟩ := by
  rw [of, h]
  exact if_pos (by simp [hnext])

theorem of_succ_cases (l : Listing) (config : Config) (replies : Nat → Reply) (left k : Nat) :
    (∃ f, l.payload (replies k) = .error f ∧ of l config replies (left + 1) k = ⟨[], some f⟩) ∨
    (∃ p, l.payload (replies k) = .ok p ∧ l.next? config p = none ∧
      of l config replies (left + 1) k = ⟨[p], none⟩) ∨
    ∃ p id, l.payload (replies k) = .ok p ∧ l.next? config p = some id ∧
      of l config replies (left + 1) k =
        ⟨p :: (of l config replies left (k + 1)).payloads,
          (of l config replies left (k + 1)).failure⟩ := by
  cases h : l.payload (replies k) with
  | error f => exact .inl ⟨f, rfl, of_error h⟩
  | ok p =>
    cases hnext : l.next? config p with
    | none => exact .inr (.inl ⟨p, rfl, hnext, of_last h hnext⟩)
    | some id => exact .inr (.inr ⟨p, id, rfl, hnext, of_more h hnext⟩)

theorem size_more (course : Course) (p : Payload) :
    size ⟨p :: course.payloads, course.failure⟩ = course.size + 1 :=
  Nat.add_right_comm course.payloads.length 1 _

theorem size_le : (of l config replies left k).size ≤ left := by
  induction left generalizing k with
  | zero => exact Nat.le_refl 0
  | succ left ih =>
    rcases of_succ_cases l config replies left k with ⟨f, -, h⟩ | ⟨p, -, -, h⟩ | ⟨p, id, -, -, h⟩
    · rw [h]
      exact Nat.le_add_left 1 left
    · rw [h]
      exact Nat.le_add_left 1 left
    · rw [h, size_more]
      exact Nat.succ_le_succ ih

theorem size_pos (hleft : 0 < left) : 0 < (of l config replies left k).size := by
  obtain ⟨left, rfl⟩ := Nat.exists_eq_succ_of_ne_zero (Nat.pos_iff_ne_zero.1 hleft)
  rcases of_succ_cases l config replies left k with ⟨f, -, h⟩ | ⟨p, -, -, h⟩ | ⟨p, id, -, -, h⟩
  · rw [h]
    exact Nat.one_pos
  · rw [h]
    exact Nat.one_pos
  · rw [h, size_more]
    exact Nat.succ_pos _

theorem size_of_done {course : Course} (h : course.failure = none) :
    course.size = course.payloads.length := by
  rw [size, h]
  rfl

theorem size_of_failed {course : Course} (h : course.failure = some f) :
    course.size = course.payloads.length + 1 := by
  rw [size, h]
  rfl

theorem payload_of_get? (h : (of l config replies left k).payloads[i]? = some p) :
    l.payload (replies (k + i)) = .ok p := by
  induction left generalizing k i with
  | zero => cases h
  | succ left ih =>
    rcases of_succ_cases l config replies left k with ⟨f, -, hc⟩ | ⟨q, hq, -, hc⟩ |
      ⟨q, id, hq, -, hc⟩
    · rw [hc] at h
      cases h
    · rw [hc] at h
      cases i with
      | zero => rwa [← Option.some.inj h]
      | succ i => cases h
    · rw [hc] at h
      cases i with
      | zero => rwa [← Option.some.inj h]
      | succ i =>
        have hrest := ih (k := k + 1) h
        rwa [Nat.add_assoc, Nat.add_comm 1 i] at hrest

theorem payload_of_failure (h : (of l config replies left k).failure = some f) :
    l.payload (replies (k + (of l config replies left k).payloads.length)) = .error f := by
  induction left generalizing k with
  | zero => cases h
  | succ left ih =>
    rcases of_succ_cases l config replies left k with ⟨g, hg, hc⟩ | ⟨q, -, -, hc⟩ |
      ⟨q, id, -, -, hc⟩
    · rw [hc] at h ⊢
      rwa [← Option.some.inj h]
    · rw [hc] at h
      cases h
    · rw [hc] at h ⊢
      have hrest := ih h
      rwa [Nat.add_assoc, Nat.add_comm 1] at hrest

theorem next?_of_lt_size (h : i + 1 < (of l config replies left k).size) :
    ∃ p id, (of l config replies left k).payloads[i]? = some p ∧ l.next? config p = some id := by
  induction left generalizing k i with
  | zero => exact absurd h (Nat.not_lt_zero _)
  | succ left ih =>
    rcases of_succ_cases l config replies left k with ⟨f, -, hc⟩ | ⟨q, -, -, hc⟩ |
      ⟨q, id, -, hnext, hc⟩
    · rw [hc] at h
      exact absurd h (by simp [size])
    · rw [hc] at h
      exact absurd h (by simp [size])
    · rw [hc, size_more] at h
      rw [hc]
      cases i with
      | zero => exact ⟨q, id, rfl, hnext⟩
      | succ i => exact ih (Nat.lt_of_succ_lt_succ h)

theorem size_of_active (h : l.filters.active ≠ []) (hleft : 0 < left) :
    (of l config replies left k).size = 1 := by
  refine Nat.le_antisymm (Nat.not_lt.1 fun hmore => ?_) (size_pos hleft)
  obtain ⟨p, id, -, hid⟩ := next?_of_lt_size hmore
  rw [Listing.next?_of_active h] at hid
  cases hid

/-- A course that no failure ends has all the pages it may have, or its last page does not go on. -/
theorem ended (h : (of l config replies left k).failure = none) :
    (of l config replies left k).payloads.length = left ∨
      ∃ p, (of l config replies left k).payloads.getLast? = some p ∧ l.next? config p = none := by
  induction left generalizing k with
  | zero => exact .inl rfl
  | succ left ih =>
    rcases of_succ_cases l config replies left k with ⟨f, -, hc⟩ | ⟨q, -, hnext, hc⟩ |
      ⟨q, id, -, -, hc⟩
    · rw [hc] at h
      cases h
    · rw [hc]
      exact .inr ⟨q, rfl, hnext⟩
    · rw [hc] at h ⊢
      rcases ih h with hlength | ⟨p, hlast, hnext⟩
      · exact .inl (congrArg Nat.succ hlength)
      · refine .inr ⟨p, ?_, hnext⟩
        rw [List.getLast?_cons, hlast]
        rfl

theorem length_places (course : Course) (after : Option String) :
    (course.places l config after).length = course.size := by
  have hsize : course.size ≤ course.payloads.length + 1 := by
    rw [size]
    split <;> omega
  rw [places, List.length_take, List.length_cons, List.length_map, Nat.min_eq_left hsize]

theorem places_get?_zero {course : Course} (h : 0 < course.size) (after : Option String) :
    (course.places l config after)[0]? = some after := by
  rw [places, List.getElem?_take_of_lt h]
  rfl

theorem places_get?_succ {course : Course} (h : i + 1 < course.size) (after : Option String)
    (hpage : course.payloads[i]? = some p) :
    (course.places l config after)[i + 1]? = some (l.next? config p) := by
  rw [places, List.getElem?_take_of_lt h, List.getElem?_cons_succ, List.getElem?_map, hpage]
  rfl

theorem places_more (course : Course) (after : Option String) (p : Payload) :
    places l config ⟨p :: course.payloads, course.failure⟩ after =
      after :: places l config course (l.next? config p) := by
  rw [places, size_more]
  rfl

end Course

end ClusterConsole.Console
