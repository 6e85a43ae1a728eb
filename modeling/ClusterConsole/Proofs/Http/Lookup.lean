import ClusterConsole.Proofs.Http.Headers
import ClusterConsole.Proofs.Text.AsciiCase

/-!
# Headers are found in any case

A response answers for a header name with the value of the last header that has this name, whatever
the case of its ASCII letters. The names it keeps are those it was given, each once, in lowercase
and in order.
-/

namespace ClusterConsole.Http

open Text (SameLetters lowerAscii lowerAscii_eq_lowerAscii_iff)

variable {name value : String} {pairs headers : List (String × String)}

namespace Headers

def names (h : Headers) : List String := h.entries.map (·.1)

theorem names_ascending (h : Headers) : h.names.Pairwise (· < ·) := List.pairwise_map.2 h.sorted

theorem names_nodup (h : Headers) : h.names.Nodup := by
  refine h.names_ascending.imp ?_
  rintro a b hlt rfl
  exact String.lt_irrefl a hlt

theorem mem_names_iff {h : Headers} : name ∈ h.names ↔ h.get? name ≠ none := by
  simp [names, get?]

theorem mem_names_ofList : name ∈ (ofList pairs).names ↔ ∃ p ∈ pairs, p.1 = name := by
  rw [mem_names_iff, get?_ofList]
  simp

end Headers

/-- The value stands in the last of the headers that have the name, in whatever case. -/
def LastOf (headers : List (String × String)) (name value : String) : Prop :=
  ∃ before spelling after, headers = before ++ (spelling, value) :: after ∧
    SameLetters spelling name ∧ ∀ e ∈ after, ¬SameLetters e.1 name

theorem find?_reverse_eq_some_iff {α : Type} {p : α → Bool} {xs : List α} {x : α} :
    xs.reverse.find? p = some x ↔
      ∃ before after, xs = before ++ x :: after ∧ p x = true ∧ ∀ y ∈ after, p y = false := by
  rw [List.find?_eq_some_iff_append]
  constructor
  · rintro ⟨hx, later, earlier, hxs, hlater⟩
    refine ⟨earlier.reverse, later.reverse, ?_, hx, ?_⟩
    · rw [← List.reverse_reverse xs, hxs]
      simp
    · simpa using hlater
  · rintro ⟨before, after, rfl, hx, hafter⟩
    exact ⟨hx, after.reverse, before.reverse, by simp, by simpa using hafter⟩

namespace Response

variable {status : UInt16} {reason body : String}

theorem header?_make (status : UInt16) (reason : String) (headers : List (String × String))
    (body name : String) :
    (make status reason headers body).header? name =
      (headers.reverse.find? fun e => SameLetters e.1 name).map (·.2) := by
  rw [header?, make, Headers.get?_ofList, ← List.map_reverse, List.find?_map, Option.map_map]
  simp only [Function.comp_def, lowerAscii_eq_lowerAscii_iff]

theorem header?_eq_some_iff :
    (make status reason headers body).header? name = some value ↔ LastOf headers name value := by
  rw [header?_make, Option.map_eq_some_iff, LastOf]
  constructor
  · rintro ⟨⟨spelling, _⟩, hfind, rfl⟩
    obtain ⟨before, after, hheaders, hname, hafter⟩ := find?_reverse_eq_some_iff.1 hfind
    exact ⟨before, spelling, after, hheaders, of_decide_eq_true hname,
      fun e he => of_decide_eq_false (hafter e he)⟩
  · rintro ⟨before, spelling, after, hheaders, hname, hafter⟩
    refine ⟨(spelling, value), find?_reverse_eq_some_iff.2 ⟨before, after, hheaders, ?_, ?_⟩, rfl⟩
    · exact decide_eq_true hname
    · exact fun e he => decide_eq_false (hafter e he)

theorem header?_eq_none_iff :
    (make status reason headers body).header? name = none ↔
      ∀ e ∈ headers, ¬SameLetters e.1 name := by
  simp [header?_make]

theorem mem_names_make_iff :
    name ∈ (make status reason headers body).headers.names ↔
      (∃ e ∈ headers, SameLetters e.1 name) ∧ ∀ c ∈ name.toList, c.isUpper = false := by
  have hgiven : name ∈ (make status reason headers body).headers.names ↔
      ∃ e ∈ headers, lowerAscii e.1 = name := by
    rw [make, Headers.mem_names_ofList]
    simp only [List.mem_map, exists_exists_and_eq_and]
  rw [hgiven]
  constructor
  · rintro ⟨e, he, rfl⟩
    refine ⟨⟨e, he, ?_⟩, fun c => Text.isUpper_of_mem_lowerAscii⟩
    rw [← lowerAscii_eq_lowerAscii_iff]
    exact (Text.lowerAscii_of_no_upper fun c => Text.isUpper_of_mem_lowerAscii).symm
  · rintro ⟨⟨e, he, hname⟩, hlower⟩
    rw [← lowerAscii_eq_lowerAscii_iff, Text.lowerAscii_of_no_upper hlower] at hname
    exact ⟨e, he, hname⟩

/-- A response answers for a name with the value of the last header that has it, in whatever case,
and does not answer exactly when there is none. The names that it keeps ascend, so that none is kept
twice; they are those that it was given, without capital letters of ASCII. Names that are the same
in whatever case have the same characters outside ASCII. -/
theorem last_header_found (status : UInt16) (reason : String) (headers : List (String × String))
    (body : String) :
    let r := make status reason headers body
    (∀ name value, r.header? name = some value ↔ LastOf headers name value) ∧
    (∀ name, r.header? name = none ↔ ∀ e ∈ headers, ¬SameLetters e.1 name) ∧
    (r.headers.names.Nodup ∧ r.headers.names.Pairwise (· < ·)) ∧
    (∀ name, name ∈ r.headers.names ↔
      (∃ e ∈ headers, SameLetters e.1 name) ∧ ∀ c ∈ name.toList, c.isUpper = false) ∧
    ∀ (name other : String) (i : Nat) (c : Char), SameLetters name other → 128 ≤ c.toNat →
      (name.toList[i]? = some c ↔ other.toList[i]? = some c) := by
  intro r
  refine ⟨fun name value => header?_eq_some_iff, fun name => header?_eq_none_iff,
    ⟨r.headers.names_nodup, r.headers.names_ascending⟩, fun name => mem_names_make_iff, ?_⟩
  intro name other i c hname hc
  exact ⟨fun hi => hname.getElem?_of_not_ascii hi hc,
    fun hi => hname.symm.getElem?_of_not_ascii hi hc⟩

def Sample.mixed : List (String × String) :=
  [("X-É", "1"), ("x-é", "2"), ("CONTENT-TYPE", "a"), ("Content-Type", "b")]

theorem accented_header_found :
    let r := make 200 "OK" Sample.mixed ""
    (SameLetters "X-É" "x-É" ∧ 128 ≤ 'É'.toNat ∧ "x-É".toList[2]? = some 'É') ∧
    r.header? "content-TYPE" = some "b" ∧ r.header? "x-É" = some "1" ∧ r.header? "X-E" = none ∧
    "x-é" ∈ r.headers.names := by
  obtain ⟨hfound, hmissing, -, hnames, hkept⟩ := last_header_found 200 "OK" Sample.mixed ""
  have hsame : SameLetters "X-É" "x-É" := by decide
  refine ⟨⟨hsame, by decide, (hkept _ _ 2 'É' hsame (by decide)).1 (by decide)⟩, ?_, ?_, ?_, ?_⟩
  · exact (hfound _ _).2 ⟨Sample.mixed.take 3, "Content-Type", [], rfl, by decide, by decide⟩
  · exact (hfound _ _).2 ⟨[], "X-É", Sample.mixed.drop 1, rfl, by decide, by decide⟩
  · exact (hmissing _).2 (by decide)
  · exact (hnames _).2 ⟨⟨("x-é", "2"), by decide, by decide⟩, by simp⟩

end Response

end ClusterConsole.Http
