import ClusterConsole.Json.Numeral
import ClusterConsole.Json.Printer

/-!
# Integers are read back

The digits of a natural number of 64 bits are gathered into it again, provided that what follows
them does not belong to a number.
-/

namespace ClusterConsole.Json

def EndsNumber (cs : List Char) : Prop :=
  Numeral.startsWithDigit cs = false ∧ Numeral.startsWithPoint cs = false ∧
    Numeral.isExponentMark cs = false

def Number.IsInteger : Number → Prop
  | .real _ => False
  | _ => True

namespace Numeral

variable {cs rest : List Char} {n : Nat}

theorem le_ofDigitChars (ds : List Char) (n : Nat) : n ≤ Nat.ofDigitChars 10 ds n := by
  have hpow : 0 < 10 ^ ds.length := Nat.pow_pos (by decide)
  have hmul : n ≤ 10 ^ ds.length * n := Nat.le_mul_of_pos_left n hpow
  rw [Nat.ofDigitChars_eq_ofDigitChars_zero]
  omega

theorem gather_digits {ds : List Char} (hds : ∀ c ∈ ds, c.isDigit)
    (hrest : startsWithDigit rest = false) (acc count : Nat)
    (hfit : Nat.ofDigitChars 10 ds acc < 0x10000000000000000) :
    gather acc count (ds ++ rest) = (Nat.ofDigitChars 10 ds acc, count + ds.length, rest) := by
  induction ds generalizing acc count with
  | nil =>
    cases rest with
    | nil => rfl
    | cons c cs =>
      have hc : c.isDigit = false := hrest
      simp [gather, hc]
  | cons d ds ih =>
    have hd : d.isDigit = true := hds d (.head _)
    rw [Nat.ofDigitChars_cons] at hfit ⊢
    have hle := le_ofDigitChars ds (10 * acc + (d.toNat - '0'.toNat))
    have hstep : acc * 10 + Text.digitValue d = 10 * acc + (d.toNat - '0'.toNat) := by
      rw [Text.digitValue, Nat.mul_comm]
    have htaken : (d.isDigit &&
        decide (acc * 10 + Text.digitValue d < 0x10000000000000000)) = true := by
      rw [hd, hstep, Bool.true_and, decide_eq_true_iff]
      omega
    rw [List.cons_append, gather, if_pos htaken, hstep,
      ih (fun c hc => hds c (.tail _ hc)) _ _ hfit, List.length_cons]
    congr 2
    omega

theorem toDigits_ne_zero_cons (hn : 0 < n) (ds : List Char) : Nat.toDigits 10 n ≠ '0' :: ds := by
  induction n using Nat.strongRecOn generalizing ds with
  | ind n ih =>
    intro h
    by_cases hlt : n < 10
    · rw [Nat.toDigits_of_lt_base hlt] at h
      have hzero : n.digitChar = '0' := (List.cons.inj h).1
      have hcode := Nat.toNat_digitChar_of_lt_ten hlt
      rw [hzero, show '0'.toNat = 48 from rfl] at hcode
      omega
    · rw [Nat.toDigits_of_base_le (by decide) (by omega)] at h
      cases hfront : Nat.toDigits 10 (n / 10) with
      | nil => exact Nat.toDigits_ne_nil hfront
      | cons c cs =>
        rw [hfront, List.cons_append] at h
        rw [(List.cons.inj h).1] at hfront
        exact ih (n / 10) (by omega) (by omega) cs hfront

theorem afterInteger_of_ends (hrest : EndsNumber rest) (negative : Bool) (n : Nat) :
    afterInteger negative n rest = .ok (integer negative n, rest) := by
  obtain ⟨-, hpoint, hmark⟩ := hrest
  simp [afterInteger, hpoint, hmark]

theorem unsigned_toDigits (negative : Bool) (hn : n < 0x10000000000000000)
    (hrest : EndsNumber rest) :
    unsigned negative (Nat.toDigits 10 n ++ rest) = .ok (integer negative n, rest) := by
  have hdigit := hrest.1
  by_cases hzero : n = 0
  · subst hzero
    rw [Nat.toDigits_zero, List.singleton_append, unsigned, if_neg (by simp [hdigit])]
    exact afterInteger_of_ends hrest negative 0
  · have hfront := toDigits_ne_zero_cons (Nat.pos_of_ne_zero hzero)
    have hvalue := @Nat.ofDigitChars_ten_toDigits n
    have hall : ∀ c ∈ Nat.toDigits 10 n, c.isDigit := by
      intro c hc
      exact Nat.isDigit_of_mem_toDigits (by decide) (by decide) hc
    cases hds : Nat.toDigits 10 n with
    | nil => exact absurd hds Nat.toDigits_ne_nil
    | cons d ds =>
      rw [hds] at hfront hvalue hall
      rw [Nat.ofDigitChars_cons, Nat.mul_zero, Nat.zero_add] at hvalue
      have hd : d.isDigit = true := hall d (.head _)
      have hgather := gather_digits (fun c hc => hall c (.tail _ hc)) hdigit
        (Text.digitValue d) 1 (by rw [Text.digitValue, hvalue]; exact hn)
      have hne : d ≠ '0' := fun h => hfront ds (by rw [h])
      rw [List.cons_append, unsigned, hgather]
      · simp only [hd, Bool.not_true, Bool.false_eq_true, if_false, hdigit]
        rw [Text.digitValue, hvalue]
        exact afterInteger_of_ends hrest negative n
      · exact hne

end Numeral

theorem Number.chars_natural (n : UInt64) : (Number.natural n).chars = Nat.toDigits 10 n.toNat := by
  rw [chars, Nat.toString_eq_repr, Nat.toList_repr]

theorem Number.chars_negative (n : Fin 0x8000000000000000) :
    (Number.negative n).chars = '-' :: Nat.toDigits 10 (n.val + 1) := by
  rw [chars, Nat.toString_eq_repr, Nat.toList_repr]

theorem Numeral.integer_natural (n : UInt64) : integer false n.toNat = .natural n := by
  simp [integer]

theorem Numeral.integer_negative (n : Fin 0x8000000000000000) :
    integer true (n.val + 1) = .negative n := by
  have hn : n.val < 0x8000000000000000 := n.isLt
  simp [integer, hn]

end ClusterConsole.Json
