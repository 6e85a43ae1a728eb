import ClusterConsole.Objects.Page

/-!
# The window of a page

Counts, indices and sizes are words. Read as numbers they do what is expected of them: there are as
many display pages as the rows need, and the window has the rows behind the display pages before it,
one display page of them. Nothing wraps, because a window that begins on the page either is the
first one or has no more rows than come before it.
-/

namespace ClusterConsole

theorem toNat_max (a b : UInt64) : (max a b).toNat = max a.toNat b.toNat := by
  change (if a ≤ b then b else a).toNat = _
  split
  · next h => exact (Nat.max_eq_right (UInt64.le_iff_toNat_le.1 h)).symm
  · next h =>
    have hle : b.toNat ≤ a.toNat := Nat.le_of_not_le fun hle => h (UInt64.le_iff_toNat_le.2 hle)
    exact (Nat.max_eq_left hle).symm

theorem one_le_max (a : UInt64) : 1 ≤ max a 1 := by
  rw [UInt64.le_iff_toNat_le, toNat_max]
  exact Nat.le_max_right _ _

theorem toNat_eq_zero_iff (a : UInt64) : a.toNat = 0 ↔ a = 0 := by
  rw [← UInt64.toNat_inj]
  rfl

namespace Page

variable {p : Page} {a b : UInt64} {k : Nat}

theorem saturatingMul_toNat (a b : UInt64) :
    (saturatingMul a b).toNat = min (a.toNat * b.toNat) 0xFFFFFFFFFFFFFFFF := by
  unfold saturatingMul
  split
  · next h =>
    rw [UInt64.toNat_mul, Nat.mod_eq_of_lt h, Nat.min_eq_left (Nat.le_of_lt_succ h)]
  · next h =>
    have hgreatest : (0xFFFFFFFFFFFFFFFF : UInt64).toNat = 0xFFFFFFFFFFFFFFFF := rfl
    rw [hgreatest, Nat.min_eq_right (by omega)]

theorem mod_eq_zero_iff (a b : UInt64) : a % b = 0 ↔ a.toNat % b.toNat = 0 := by
  rw [← toNat_eq_zero_iff, UInt64.toNat_mod]

theorem succ_quotient_lt (hb : 0 < b.toNat) (hrest : a.toNat % b.toNat ≠ 0) :
    a.toNat / b.toNat + 1 < 0x10000000000000000 := by
  have hone : 1 < b.toNat := by
    refine Nat.lt_of_le_of_ne hb fun hb => hrest ?_
    rw [← hb, Nat.mod_one]
  rcases Nat.eq_zero_or_pos a.toNat with ha | ha
  · rw [ha, Nat.zero_div]
    decide
  · exact Nat.lt_of_le_of_lt (Nat.div_lt_self ha hone) a.toNat_lt

theorem lt_divUp_iff (hb : 0 < b.toNat) : k < (divUp a b).toNat ↔ k * b.toNat < a.toNat := by
  have hsplit : b.toNat * (a.toNat / b.toNat) + a.toNat % b.toNat = a.toNat :=
    Nat.div_add_mod a.toNat b.toNat
  have hfloor : k ≤ a.toNat / b.toNat ↔ k * b.toNat ≤ a.toNat := Nat.le_div_iff_mul_le hb
  unfold divUp
  split
  · next h =>
    rw [mod_eq_zero_iff] at h
    rw [h, Nat.add_zero, Nat.mul_comm] at hsplit
    rw [UInt64.toNat_div]
    conv => rhs; rw [← hsplit]
    exact (Nat.mul_lt_mul_right hb).symm
  · next h =>
    rw [mod_eq_zero_iff] at h
    have hquotient : a.toNat / b.toNat + 1 < 2 ^ 64 := succ_quotient_lt hb h
    have hne : k * b.toNat ≠ a.toNat := by
      intro he
      exact h (by rw [← he, Nat.mul_mod_left])
    rw [UInt64.toNat_add, UInt64.toNat_div]
    change k < (a.toNat / b.toNat + 1) % 2 ^ 64 ↔ _
    rw [Nat.mod_eq_of_lt hquotient, Nat.lt_succ_iff, hfloor]
    omega

theorem one_le_pageCount (p : Page) : 1 ≤ p.pageCount := by
  unfold pageCount
  split
  · exact UInt64.le_refl 1
  · exact one_le_max _

theorem lt_pageCount_iff (hsize : 1 ≤ p.pageSize) (hk : 0 < k) :
    k < p.pageCount.toNat ↔ k * p.pageSize.toNat < p.total.toNat := by
  have hpos : 0 < p.pageSize.toNat := UInt64.le_iff_toNat_le.1 hsize
  have hne : p.pageSize ≠ 0 := fun h => Nat.ne_of_gt hpos ((toNat_eq_zero_iff _).2 h)
  rw [pageCount, if_neg hne, toNat_max, ← lt_divUp_iff hpos]
  change k < max _ 1 ↔ _
  omega

def rows (p : Page) : Nat := max p.pageSize.toNat 1

def rowsBefore (p : Page) : Nat := (max p.pageIndex.toNat 1 - 1) * p.rows

theorem windowStart_toNat (p : Page) :
    (saturatingMul (max p.pageIndex 1 - 1) (max p.pageSize 1)).toNat =
      min p.rowsBefore 0xFFFFFFFFFFFFFFFF := by
  have hbefore : (max p.pageIndex 1 - 1).toNat = max p.pageIndex.toNat 1 - 1 := by
    rw [UInt64.toNat_sub_of_le _ _ (one_le_max _), toNat_max]
    rfl
  rw [saturatingMul_toNat, hbefore, toNat_max]
  rfl

theorem rowsBefore_eq_zero_or_le (p : Page) : p.rowsBefore = 0 ∨ p.rows ≤ p.rowsBefore := by
  unfold rowsBefore
  cases max p.pageIndex.toNat 1 - 1 with
  | zero => exact .inl (Nat.zero_mul _)
  | succ k => exact .inr (Nat.le_mul_of_pos_left _ k.succ_pos)

theorem windowEnd_lt (h : p.records.length < 0x8000000000000000)
    (hstart : min p.rowsBefore 0xFFFFFFFFFFFFFFFF < p.records.length) :
    min p.rowsBefore 0xFFFFFFFFFFFFFFFF + p.rows < 0x10000000000000000 := by
  have hrows : (max p.pageSize 1).toNat = p.rows := toNat_max _ _
  have hword : p.rows < 2 ^ 64 := hrows ▸ (max p.pageSize 1).toNat_lt
  rcases rowsBefore_eq_zero_or_le p with hfirst | hfirst <;> omega

theorem visible_eq (h : p.records.length < 0x8000000000000000) :
    p.visible = (p.records.drop p.rowsBefore).take p.rows := by
  have hrows : (max p.pageSize 1).toNat = p.rows := toNat_max _ _
  have hstart := windowStart_toNat p
  have hend := windowEnd_lt h
  unfold visible
  dsimp only
  generalize saturatingMul (max p.pageIndex 1 - 1) (max p.pageSize 1) = start at hstart ⊢
  split
  · next hbehind =>
    have hbehind : p.records.length ≤ p.rowsBefore := by omega
    rw [List.drop_of_length_le hbehind, List.take_nil]
  · next hbegins =>
    have hexact : start.toNat = p.rowsBefore := by omega
    have hroom : start.toNat + p.rows < 2 ^ 64 := by omega
    rw [UInt64.toNat_add, hrows, Nat.mod_eq_of_lt hroom, hexact, List.take_eq_take_iff,
      List.length_drop]
    omega

end Page

end ClusterConsole
