import ClusterConsole.Text.AsciiCase
import Mathlib.Data.List.Forall2

/-!
# Texts that differ in case

Two texts have the same lowercase exactly when they differ in nothing but the case of ASCII letters.
Such texts have the same other characters at the same places, letters outside ASCII among them.
-/

namespace ClusterConsole.Text

variable {c d : Char} {s t : String}

theorem toNat_toLower (c : Char) :
    c.toLower.toNat = if 65 ≤ c.toNat ∧ c.toNat ≤ 90 then c.toNat + 32 else c.toNat := by
  unfold Char.toLower
  split
  · next h =>
    have hlow : 65 ≤ c.toNat := h.1
    have hhigh : c.toNat ≤ 90 := h.2
    rw [if_pos ⟨hlow, hhigh⟩]
    change (c.val + 32).toNat = c.toNat + 32
    rw [UInt32.toNat_add]
    change (c.toNat + 32) % 2 ^ 32 = c.toNat + 32
    omega
  · next h =>
    rw [if_neg]
    exact h

theorem eq_of_toLower_eq (h : c.toLower = d) (hd : d.toNat < 97) : c = d := by
  have hnat := toNat_toLower c
  rw [h] at hnat
  refine Char.toNat_inj.1 ?_
  split at hnat <;> omega

theorem isUpper_iff : c.isUpper = true ↔ 65 ≤ c.toNat ∧ c.toNat ≤ 90 := by
  unfold Char.isUpper
  simp [UInt32.le_iff_toNat_le]

def CapitalOf (c d : Char) : Prop := c.isUpper = true ∧ d.toNat = c.toNat + 32

/-- The characters are the same but for the case of an ASCII letter. -/
def SameLetter (c d : Char) : Prop := c = d ∨ CapitalOf c d ∨ CapitalOf d c

instance : DecidableRel SameLetter := fun c d =>
  inferInstanceAs (Decidable (c = d ∨ (_ ∧ _) ∨ (_ ∧ _)))

theorem toLower_eq_toLower_iff : c.toLower = d.toLower ↔ SameLetter c d := by
  rw [← Char.toNat_inj, toNat_toLower, toNat_toLower, SameLetter, CapitalOf, CapitalOf,
    isUpper_iff, isUpper_iff, ← Char.toNat_inj]
  split <;> split <;> omega

theorem SameLetter.eq_of_not_ascii (h : SameLetter c d) (hc : 128 ≤ c.toNat) : c = d := by
  rw [SameLetter, CapitalOf, CapitalOf, isUpper_iff, isUpper_iff] at h
  rcases h with h | h | h
  · exact h
  · omega
  · omega

def SameLetters (s t : String) : Prop := List.Forall₂ SameLetter s.toList t.toList

instance : DecidableRel SameLetters := fun s t =>
  inferInstanceAs (Decidable (List.Forall₂ SameLetter s.toList t.toList))

theorem lowerAscii_eq_lowerAscii_iff : lowerAscii s = lowerAscii t ↔ SameLetters s t := by
  rw [lowerAscii, lowerAscii, String.ofList_inj, ← List.forall₂_eq_eq_eq,
    List.forall₂_map_left_iff, List.forall₂_map_right_iff, SameLetters]
  simp only [toLower_eq_toLower_iff]

theorem SameLetters.symm (h : SameLetters s t) : SameLetters t s :=
  lowerAscii_eq_lowerAscii_iff.1 (lowerAscii_eq_lowerAscii_iff.2 h).symm

theorem SameLetters.getElem?_of_not_ascii (h : SameLetters s t) {i : Nat}
    (hi : s.toList[i]? = some c) (hc : 128 ≤ c.toNat) : t.toList[i]? = some c := by
  obtain ⟨hlength, hletters⟩ := List.forall₂_iff_get.1 h
  obtain ⟨hs, rfl⟩ := List.getElem?_eq_some_iff.1 hi
  have ht : i < t.toList.length := hlength ▸ hs
  exact List.getElem?_eq_some_iff.2 ⟨ht, ((hletters i hs ht).eq_of_not_ascii hc).symm⟩

theorem isUpper_of_mem_lowerAscii (h : c ∈ (lowerAscii s).toList) : c.isUpper = false := by
  rw [lowerAscii, String.toList_ofList] at h
  obtain ⟨d, -, rfl⟩ := List.mem_map.1 h
  rw [Bool.eq_false_iff, ne_eq, isUpper_iff, toNat_toLower]
  split <;> omega

theorem toLower_of_not_upper (h : c.isUpper = false) : c.toLower = c := by
  have hrange : ¬(65 ≤ c.toNat ∧ c.toNat ≤ 90) := by
    rw [← isUpper_iff, h]
    exact Bool.false_ne_true
  rw [← Char.toNat_inj, toNat_toLower, if_neg hrange]

theorem lowerAscii_of_no_upper (h : ∀ c ∈ s.toList, c.isUpper = false) : lowerAscii s = s := by
  have hchars : s.toList.map Char.toLower = s.toList :=
    (List.map_congr_left fun c hc => toLower_of_not_upper (h c hc)).trans (List.map_id _)
  rw [lowerAscii, hchars, String.ofList_toList]

end ClusterConsole.Text
