import ClusterConsole.Proofs.Text.Trim
import ClusterConsole.Text.Integer
import Mathlib.Data.List.Induction

/-!
# Integers in decimal

A natural number in figures is its digits with any zeros in front, and these are all the texts of
digits there are. An integer has a sign before them, or none if it is not negative. What is read as
an integer of 64 bits is exactly such a text between any blanks.
-/

namespace ClusterConsole.Text

variable {n : Nat} {i : Int} {c : Char} {cs ds : List Char} {s : String}

/-- The digits of the number, with any zeros in front. -/
def Figures (n : Nat) (ds : List Char) : Prop :=
  ∃ zeros, ds = List.replicate zeros '0' ++ Nat.toDigits 10 n

theorem Figures.isDigit (h : Figures n ds) (hc : c ∈ ds) : c.isDigit = true := by
  obtain ⟨zeros, rfl⟩ := h
  rcases List.mem_append.1 hc with hc | hc
  · rw [List.eq_of_mem_replicate hc]
    rfl
  · exact Nat.isDigit_of_mem_toDigits (by decide) (by decide) hc

theorem Figures.exists_cons (h : Figures n ds) : ∃ d rest, ds = d :: rest ∧ d.isDigit = true := by
  cases ds with
  | nil =>
    obtain ⟨zeros, hzeros⟩ := h
    exact absurd (List.append_eq_nil_iff.1 hzeros.symm).2 Nat.toDigits_ne_nil
  | cons d rest => exact ⟨d, rest, rfl, h.isDigit (.head _)⟩

theorem Figures.value (h : Figures n ds) : Nat.ofDigitChars 10 ds 0 = n := by
  obtain ⟨zeros, rfl⟩ := h
  rw [Nat.ofDigitChars_append, Nat.ofDigitChars_replicate_zero, Nat.mul_zero]
  exact Nat.ofDigitChars_ten_toDigits

theorem digitsValue_eq (ds : List Char) : digitsValue ds = Nat.ofDigitChars 10 ds 0 := rfl

theorem digitsValue_concat (ds : List Char) (d : Char) :
    digitsValue (ds ++ [d]) = 10 * digitsValue ds + digitValue d := by
  rw [digitsValue, List.foldl_append]
  rfl

theorem digitValue_lt (h : c.isDigit = true) : digitValue c < 10 := by
  have hcode := toNat_of_isDigit h
  change c.toNat - 48 < 10
  omega

theorem toDigits_digitValue (h : c.isDigit = true) : Nat.toDigits 10 (digitValue c) = [c] := by
  have hcode := toNat_of_isDigit h
  have hchar : (digitValue c).digitChar = c := by
    rw [← Char.toNat_inj, Nat.toNat_digitChar_of_lt_ten (digitValue_lt h)]
    change 48 + (c.toNat - 48) = c.toNat
    omega
  rw [Nat.toDigits_of_lt_base (digitValue_lt h), hchar]

theorem toDigits_concat (hn : 0 < n) (h : c.isDigit = true) :
    Nat.toDigits 10 n ++ [c] = Nat.toDigits 10 (10 * n + digitValue c) := by
  rw [← Nat.toDigits_append_toDigits (by decide) hn (digitValue_lt h), toDigits_digitValue h]

theorem Figures.concat (h : Figures n ds) (hc : c.isDigit = true) :
    Figures (10 * n + digitValue c) (ds ++ [c]) := by
  obtain ⟨zeros, rfl⟩ := h
  rcases Nat.eq_zero_or_pos n with rfl | hn
  -- the digit of zero becomes one of the zeros in front
  · refine ⟨zeros + 1, ?_⟩
    rw [Nat.mul_zero, Nat.zero_add, toDigits_digitValue hc, Nat.toDigits_zero,
      List.replicate_succ']
  · exact ⟨zeros, by rw [List.append_assoc, toDigits_concat hn hc]⟩

theorem figures_digitsValue (hne : ds ≠ []) (hds : ∀ c ∈ ds, c.isDigit = true) :
    Figures (digitsValue ds) ds := by
  induction ds using List.reverseRecOn with
  | nil => exact absurd rfl hne
  | append_singleton front d ih =>
    have hd : d.isDigit = true := hds d (by simp)
    rw [digitsValue_concat]
    by_cases hfront : front = []
    · subst hfront
      refine ⟨0, ?_⟩
      change [d] = Nat.toDigits 10 (10 * 0 + digitValue d)
      rw [Nat.mul_zero, Nat.zero_add, toDigits_digitValue hd]
    · exact (ih hfront fun c hc => hds c (List.mem_append_left _ hc)).concat hd

theorem natural?_eq_some_iff : natural? ds = some n ↔ Figures n ds := by
  constructor
  · intro h
    rw [natural?] at h
    split at h
    · next hdigits =>
      cases h
      exact figures_digitsValue hdigits.1 (List.all_eq_true.1 hdigits.2)
    · cases h
  · intro h
    obtain ⟨d, rest, hcons, -⟩ := h.exists_cons
    have hdigits : ds ≠ [] ∧ ds.all Char.isDigit = true :=
      ⟨by simp [hcons], List.all_eq_true.2 fun c hc => h.isDigit hc⟩
    rw [natural?, if_pos hdigits, digitsValue_eq, h.value]

/-- The integer in figures, with a sign if wanted. Zero can have either. -/
inductive Decimal : Int → List Char → Prop where
  | plain {n : Nat} {ds : List Char} (h : Figures n ds) : Decimal n ds
  | plus {n : Nat} {ds : List Char} (h : Figures n ds) : Decimal n ('+' :: ds)
  | minus {n : Nat} {ds : List Char} (h : Figures n ds) : Decimal (-n) ('-' :: ds)

theorem signedInteger?_of_figures (h : Figures n ds) : signedInteger? ds = some (n : Int) := by
  obtain ⟨d, rest, rfl, hd⟩ := h.exists_cons
  have hfirst : ∀ sign ds', d :: rest = sign :: ds' → sign.isDigit = true := by
    intro sign ds' he
    rwa [← (List.cons.inj he).1]
  rw [signedInteger?, natural?_eq_some_iff.2 h, Option.map_some]
  · exact fun ds' he => absurd (hfirst '-' ds' he) (by decide)
  · exact fun ds' he => absurd (hfirst '+' ds' he) (by decide)

theorem signedInteger?_eq_some_iff : signedInteger? cs = some i ↔ Decimal i cs := by
  constructor
  · intro h
    unfold signedInteger? at h
    split at h
    · obtain ⟨n, hn, rfl⟩ := Option.map_eq_some_iff.1 h
      exact .minus (natural?_eq_some_iff.1 hn)
    · obtain ⟨n, hn, rfl⟩ := Option.map_eq_some_iff.1 h
      exact .plus (natural?_eq_some_iff.1 hn)
    · obtain ⟨n, hn, rfl⟩ := Option.map_eq_some_iff.1 h
      exact .plain (natural?_eq_some_iff.1 hn)
  · intro h
    cases h with
    | plain hn => exact signedInteger?_of_figures hn
    | plus hn => rw [signedInteger?, natural?_eq_some_iff.2 hn, Option.map_some]
    | minus hn => rw [signedInteger?, natural?_eq_some_iff.2 hn, Option.map_some]

theorem Decimal.not_blank (h : Decimal i cs) (hc : c ∈ cs) : isBlank c = false := by
  cases h with
  | plain hn => exact isBlank_of_isDigit (hn.isDigit hc)
  | plus hn =>
    rcases List.mem_cons.1 hc with rfl | hc
    · decide
    · exact isBlank_of_isDigit (hn.isDigit hc)
  | minus hn =>
    rcases List.mem_cons.1 hc with rfl | hc
    · decide
    · exact isBlank_of_isDigit (hn.isDigit hc)

/-- The text is the integer in decimal between any blanks. -/
def Spells (s : String) (i : Int) : Prop := ∃ cs, Decimal i cs ∧ Surrounded s.toList cs

def FitsInt64 (i : Int) : Prop := -0x8000000000000000 ≤ i ∧ i < 0x8000000000000000

instance (i : Int) : Decidable (FitsInt64 i) := inferInstanceAs (Decidable (_ ∧ _))

theorem int64?_eq_some_iff : int64? cs = some i ↔ Decimal i cs ∧ FitsInt64 i := by
  rw [int64?, Option.filter_eq_some_iff, signedInteger?_eq_some_iff, Bool.and_eq_true,
    decide_eq_true_iff, decide_eq_true_iff, FitsInt64]

theorem int64?_trimChars_eq_some_iff :
    int64? (trimChars s.toList) = some i ↔ Spells s i ∧ FitsInt64 i := by
  rw [int64?_eq_some_iff]
  refine and_congr_left fun _ => ⟨?_, ?_⟩
  · intro h
    exact ⟨_, h, surrounded_trimChars s.toList⟩
  · rintro ⟨cs, hcs, hsurrounded⟩
    have htrimmed : trimChars s.toList = cs :=
      hsurrounded.trimChars_eq (fun c hc => hcs.not_blank (List.mem_of_mem_head? hc))
        fun c hc => hcs.not_blank (List.mem_of_mem_getLast? hc)
    rwa [htrimmed]

end ClusterConsole.Text
