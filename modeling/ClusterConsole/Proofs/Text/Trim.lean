import ClusterConsole.Text.Blank
import Mathlib.Data.List.DropRight
import Mathlib.Data.List.TakeWhile

/-!
# Trimmed texts

Trimming leaves a blank at neither end of a text, and it leaves a text without such blanks as it is.
It leaves nothing of a text of blanks. What it takes away are blanks only, and all that surround a
text without blanks at its ends.
-/

namespace ClusterConsole.Text

variable {s t : String} {cs : List Char}

structure Trimmed (s : String) : Prop where
  first : ∀ c ∈ s.toList.head?, isBlank c = false
  last : ∀ c ∈ s.toList.getLast?, isBlank c = false

theorem trimmed_empty : Trimmed "" := ⟨by simp, by simp⟩

theorem trimEnd_eq_rdropWhile (cs : List Char) : trimEnd cs = cs.rdropWhile isBlank := rfl

theorem trimStart_of_first (h : ∀ c ∈ cs.head?, isBlank c = false) : trimStart cs = cs := by
  cases cs with
  | nil => rfl
  | cons c cs =>
    apply List.dropWhile_cons_of_neg
    simp [h c rfl]

theorem trimEnd_of_last (h : ∀ c ∈ cs.getLast?, isBlank c = false) : trimEnd cs = cs := by
  rw [trimEnd_eq_rdropWhile, List.rdropWhile_eq_self_iff]
  intro hne
  simp [h _ (List.getLast?_eq_some_getLast hne)]

theorem trim_of_trimmed (h : Trimmed s) : trim s = s := by
  rw [trim, trimChars, trimStart_of_first h.first, trimEnd_of_last h.last, String.ofList_toList]

theorem first_trimStart (cs : List Char) : ∀ c ∈ (trimStart cs).head?, isBlank c = false := by
  intro c hc
  have hfirst := List.head?_dropWhile_not isBlank cs
  rw [← trimStart, hc] at hfirst
  exact hfirst

theorem last_trimEnd (cs : List Char) : ∀ c ∈ (trimEnd cs).getLast?, isBlank c = false := by
  intro c hc
  rw [trimEnd_eq_rdropWhile] at hc
  obtain ⟨hne, rfl⟩ := List.mem_getLast?_eq_getLast hc
  simpa using List.rdropWhile_last_not isBlank cs hne

theorem head?_trimEnd (h : trimEnd cs ≠ []) : (trimEnd cs).head? = cs.head? := by
  obtain ⟨rest, hrest⟩ : trimEnd cs <+: cs := List.rdropWhile_prefix isBlank cs
  calc (trimEnd cs).head? = (trimEnd cs ++ rest).head? :=
        (List.head?_append_of_ne_nil _ h).symm
    _ = cs.head? := by rw [hrest]

theorem trimmed_trim (s : String) : Trimmed (trim s) := by
  rw [trim, trimChars]
  constructor
  · rw [String.toList_ofList]
    intro c hc
    have hne : trimEnd (trimStart s.toList) ≠ [] := by
      rintro he
      rw [he] at hc
      cases hc
    rw [head?_trimEnd hne] at hc
    exact first_trimStart s.toList c hc
  · rw [String.toList_ofList]
    exact last_trimEnd _

theorem trimChars_eq_nil : trimChars cs = [] ↔ ∀ c ∈ cs, isBlank c := by
  have hstart : trimChars cs = [] ↔ ∀ c ∈ cs.dropWhile isBlank, isBlank c := by
    rw [trimChars, trimEnd, trimStart, trimStart, List.reverse_eq_nil_iff,
      List.dropWhile_eq_nil_iff]
    simp only [List.mem_reverse]
  rw [hstart]
  refine ⟨?_, fun h c hc => h c ((List.dropWhile_sublist _).subset hc)⟩
  intro h c hc
  rw [← List.takeWhile_append_dropWhile (p := isBlank) (l := cs)] at hc
  rcases List.mem_append.1 hc with hc | hc
  · exact List.mem_takeWhile_imp hc
  · exact h c hc

def Surrounded (cs inner : List Char) : Prop :=
  ∃ before after, (∀ c ∈ before, isBlank c) ∧ (∀ c ∈ after, isBlank c) ∧
    cs = before ++ inner ++ after

theorem surrounded_trimChars (cs : List Char) : Surrounded cs (trimChars cs) := by
  refine ⟨cs.takeWhile isBlank, (trimStart cs).rtakeWhile isBlank,
    fun c => List.mem_takeWhile_imp, fun c => List.mem_rtakeWhile_imp, ?_⟩
  rw [trimChars, trimEnd_eq_rdropWhile, List.append_assoc, List.rdropWhile_append_rtakeWhile,
    trimStart, List.takeWhile_append_dropWhile]

theorem Surrounded.trimChars_eq {inner : List Char} (h : Surrounded cs inner)
    (hfirst : ∀ c ∈ inner.head?, isBlank c = false)
    (hlast : ∀ c ∈ inner.getLast?, isBlank c = false) : trimChars cs = inner := by
  obtain ⟨before, after, hbefore, hafter, rfl⟩ := h
  by_cases hinner : inner = []
  · subst hinner
    rw [trimChars_eq_nil, List.append_nil]
    intro c hc
    exact (List.mem_append.1 hc).elim (hbefore c) (hafter c)
  · have hstart : trimStart (before ++ (inner ++ after)) = inner ++ after := by
      rw [trimStart, List.dropWhile_append_of_pos hbefore]
      apply trimStart_of_first
      rwa [List.head?_append_of_ne_nil _ hinner]
    have hend : trimEnd (inner ++ after) = trimEnd inner := by
      have hreverse : ∀ c ∈ after.reverse, isBlank c := fun c hc => hafter c (List.mem_reverse.1 hc)
      rw [trimEnd, List.reverse_append, trimStart, List.dropWhile_append_of_pos hreverse]
      rfl
    rw [List.append_assoc, trimChars, hstart, hend, trimEnd_of_last hlast]

theorem toNat_of_isDigit {c : Char} (h : c.isDigit = true) : 48 ≤ c.toNat ∧ c.toNat ≤ 57 := by
  simpa [Char.isDigit, UInt32.le_iff_toNat_le] using h

theorem isBlank_of_isDigit {c : Char} (h : c.isDigit = true) : isBlank c = false := by
  obtain ⟨hlow, hhigh⟩ := toNat_of_isDigit h
  simp only [isBlank, inRanges, blankRanges, List.any_cons, List.any_nil, Bool.or_false,
    Bool.or_eq_false_iff, Bool.and_eq_false_iff, decide_eq_false_iff_not]
  omega

theorem allBlank_iff : allBlank s = true ↔ trim s = "" := by
  rw [allBlank, List.all_eq_true, ← trimChars_eq_nil, trim, ← String.toList_inj]
  simp

theorem trimmed_iff : Trimmed s ↔ trim s = s := by
  constructor
  · exact trim_of_trimmed
  · intro h
    rw [← h]
    exact trimmed_trim s

theorem Trimmed.append (hs : Trimmed s) (hne : s ≠ "") (ht : Trimmed t) : Trimmed (s ++ t) := by
  have hchars : s.toList ≠ [] := by simpa using hne
  constructor
  · rw [String.toList_append, List.head?_append_of_ne_nil _ hchars]
    exact hs.first
  · rw [String.toList_append, List.getLast?_append]
    intro c hc
    rcases Option.or_eq_some_iff.1 hc with hc | ⟨-, hc⟩
    · exact ht.last c hc
    · exact hs.last c hc

end ClusterConsole.Text
