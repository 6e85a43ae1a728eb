import ClusterConsole.Proofs.Page.Window
import Mathlib.Data.List.Basic

/-!
# Display pages

The windows of a page at the indices from 1 to the count of its display pages are its records, cut
into pieces. All pieces but the last are full, the last is empty only if there are no records, and
behind it nothing is shown.
-/

namespace ClusterConsole.Page

variable {p : Page} {index : UInt64} {k : Nat}

def turnTo (p : Page) (index : UInt64) : Page := { p with pageIndex := index }

/-- The words of the page agree with its records, and there is room for a row. A list in memory has
fewer than `0x8000000000000000` items. -/
structure Counted (p : Page) : Prop where
  total : p.total.toNat = p.records.length
  size : 1 ≤ p.pageSize
  room : p.records.length < 0x8000000000000000

theorem take_pieces {α : Type} (xs : List α) (size count : Nat) :
    (List.range' 1 count).flatMap (fun i => (xs.drop ((i - 1) * size)).take size) =
      xs.take (count * size) := by
  induction count with
  | zero => simp
  | succ count ih =>
    rw [List.range'_1_concat, List.flatMap_append, ih, Nat.succ_mul, List.take_add]
    simp

namespace Counted

theorem size_pos (h : p.Counted) : 1 ≤ p.pageSize.toNat := UInt64.le_iff_toNat_le.1 h.size

theorem visible_turnTo (h : p.Counted) (hindex : 1 ≤ index) :
    (p.turnTo index).visible =
      (p.records.drop ((index.toNat - 1) * p.pageSize.toNat)).take p.pageSize.toNat := by
  have hfirst : max index.toNat 1 = index.toNat :=
    Nat.max_eq_left (UInt64.le_iff_toNat_le.1 hindex)
  have hrows : max p.pageSize.toNat 1 = p.pageSize.toNat := Nat.max_eq_left h.size_pos
  rw [visible_eq (p := p.turnTo index) h.room, rowsBefore, rows]
  change (p.records.drop ((max index.toNat 1 - 1) * max p.pageSize.toNat 1)).take
    (max p.pageSize.toNat 1) = _
  rw [hfirst, hrows]

theorem lt_count_iff (h : p.Counted) (hk : 0 < k) :
    k < p.pageCount.toNat ↔ k * p.pageSize.toNat < p.records.length := by
  rw [lt_pageCount_iff h.size hk, h.total]

theorem length_le (h : p.Counted) :
    p.records.length ≤ p.pageCount.toNat * p.pageSize.toNat := by
  have hcount : 0 < p.pageCount.toNat := UInt64.le_iff_toNat_le.1 p.one_le_pageCount
  exact Nat.not_lt.1 fun hlt => Nat.lt_irrefl _ ((h.lt_count_iff hcount).2 hlt)

theorem pieces (h : p.Counted) :
    (List.range' 1 p.pageCount.toNat).flatMap (fun i => (p.turnTo i.toUInt64).visible) =
      p.records := by
  have hpiece : ∀ i ∈ List.range' 1 p.pageCount.toNat, (p.turnTo i.toUInt64).visible =
      (p.records.drop ((i - 1) * p.pageSize.toNat)).take p.pageSize.toNat := by
    intro i hi
    obtain ⟨hfirst, hlast⟩ := List.mem_range'_1.1 hi
    have hlt : i < UInt64.size :=
      Nat.lt_of_le_of_lt (by omega) p.pageCount.toNat_lt_size
    have hword : i.toUInt64.toNat = i := UInt64.toNat_ofNat_of_lt' hlt
    have hindex : 1 ≤ i.toUInt64 := UInt64.le_iff_toNat_le.2 (by rw [hword]; exact hfirst)
    rw [h.visible_turnTo hindex, hword]
  rw [List.flatMap_congr hpiece, take_pieces, List.take_of_length_le h.length_le]

theorem full_before_last (h : p.Counted) (hfirst : 1 ≤ index) (hlast : index < p.pageCount) :
    (p.turnTo index).visible.length = p.pageSize.toNat := by
  have hpos : 1 ≤ index.toNat := UInt64.le_iff_toNat_le.1 hfirst
  have hrows : index.toNat * p.pageSize.toNat < p.records.length :=
    (h.lt_count_iff hpos).1 (UInt64.lt_iff_toNat_lt.1 hlast)
  have hsplit : index.toNat * p.pageSize.toNat =
      (index.toNat - 1) * p.pageSize.toNat + p.pageSize.toNat := by
    rw [← Nat.succ_mul, Nat.succ_eq_add_one, Nat.sub_add_cancel hpos]
  rw [h.visible_turnTo hfirst, List.length_take, List.length_drop]
  omega

theorem last_ne_nil (h : p.Counted) (hrecords : p.records ≠ []) :
    (p.turnTo p.pageCount).visible ≠ [] := by
  have hbefore : (p.pageCount.toNat - 1) * p.pageSize.toNat < p.records.length := by
    rcases Nat.eq_zero_or_pos (p.pageCount.toNat - 1) with hone | hmore
    · rw [hone, Nat.zero_mul]
      exact List.length_pos_iff.2 hrecords
    · exact (h.lt_count_iff hmore).1 (by omega)
  rw [h.visible_turnTo p.one_le_pageCount, ← List.length_pos_iff, List.length_take,
    List.length_drop]
  have := h.size_pos
  omega

theorem length_visible_le (h : p.Counted) (hindex : 1 ≤ index) :
    (p.turnTo index).visible.length ≤ p.pageSize.toNat := by
  rw [h.visible_turnTo hindex]
  exact List.length_take_le _ _

theorem nothing_behind (h : p.Counted) (hindex : p.pageCount < index) :
    (p.turnTo index).visible = [] := by
  have hlt : p.pageCount.toNat < index.toNat := UInt64.lt_iff_toNat_lt.1 hindex
  have hfirst : 1 ≤ index := UInt64.le_of_lt (UInt64.lt_of_le_of_lt p.one_le_pageCount hindex)
  have hbehind : p.records.length ≤ (index.toNat - 1) * p.pageSize.toNat :=
    Nat.le_trans h.length_le (Nat.mul_le_mul_right _ (by omega))
  rw [h.visible_turnTo hfirst, List.drop_of_length_le hbehind, List.take_nil]

end Counted

/-- The windows of a page whose words agree with its records, one after the other, are the records.
The windows before the last are full, the last has a row if any window has one, and no window shows
anything behind it. -/
theorem display_pages_partition (h : p.Counted) :
    (List.range' 1 p.pageCount.toNat).flatMap (fun i => (p.turnTo i.toUInt64).visible) =
      p.records ∧
    (∀ index, 1 ≤ index → index < p.pageCount →
      (p.turnTo index).visible.length = p.pageSize.toNat) ∧
    (p.records ≠ [] → 1 ≤ (p.turnTo p.pageCount).visible.length) ∧
    (p.turnTo p.pageCount).visible.length ≤ p.pageSize.toNat ∧
    ∀ index, p.pageCount < index → (p.turnTo index).visible = [] := by
  refine ⟨h.pieces, fun index => h.full_before_last, ?_, h.length_visible_le p.one_le_pageCount,
    fun index => h.nothing_behind⟩
  intro hrecords
  exact List.length_pos_iff.2 (h.last_ne_nil hrecords)

def Sample.even : Page :=
  { ofRecords (["a", "b", "c", "d", "e", "f"].map fun id => ⟨id, [], none, none, none, .null⟩) with
    pageSize := 3 }

theorem even_pages_full :
    Sample.even.Counted ∧ Sample.even.pageCount = 2 ∧
    (Sample.even.turnTo 1).visible ++ (Sample.even.turnTo 2).visible = Sample.even.records ∧
    (Sample.even.turnTo 1).visible.length = 3 ∧ 1 ≤ (Sample.even.turnTo 2).visible.length ∧
    (Sample.even.turnTo 3).visible = [] := by
  have hcounted : Sample.even.Counted := ⟨by decide, by decide, by decide⟩
  have hcount : Sample.even.pageCount = 2 := by decide
  obtain ⟨hpieces, hfull, hlast, -, hbehind⟩ := display_pages_partition hcounted
  rw [hcount] at hpieces hfull hlast hbehind
  have hpair : (Sample.even.turnTo 1).visible ++ ((Sample.even.turnTo 2).visible ++ []) =
      Sample.even.records := hpieces
  rw [List.append_nil] at hpair
  exact ⟨hcounted, hcount, hpair, hfull 1 (by decide) (by decide), hlast (List.cons_ne_nil _ _),
    hbehind 3 (by decide)⟩

end ClusterConsole.Page
