import ClusterConsole.Objects.Store
import ClusterConsole.Proofs.Page.Window

/-!
# The window of a store

A store is used in any order: fetches begin, end well or badly and in time or too late, and the
window is moved to any index and given any size. All the while the window lies on the page, so that
it shows a row whenever there is one.
-/

namespace ClusterConsole

/-- The window lies on the page: a display page has room for a row, and the index is that of a
display page. -/
structure Page.Framed (p : Page) : Prop where
  total : p.total = p.records.length.toUInt64
  size : 1 ≤ p.pageSize
  first : 1 ≤ p.pageIndex
  last : p.pageIndex ≤ p.pageCount

namespace Page.Framed

variable {p : Page}

theorem total_toNat (h : p.Framed) (hroom : p.records.length < 0x8000000000000000) :
    p.total.toNat = p.records.length := by
  rw [h.total]
  exact UInt64.toNat_ofNat_of_lt' (Nat.lt_trans hroom (by decide))

theorem rowsBefore_lt (h : p.Framed) (hroom : p.records.length < 0x8000000000000000)
    (hrecords : p.records ≠ []) : p.rowsBefore < p.records.length := by
  have hsize : max p.pageSize.toNat 1 = p.pageSize.toNat :=
    Nat.max_eq_left (UInt64.le_iff_toNat_le.1 h.size)
  have hfirst : 1 ≤ p.pageIndex.toNat := UInt64.le_iff_toNat_le.1 h.first
  have hlast : p.pageIndex.toNat ≤ p.pageCount.toNat := UInt64.le_iff_toNat_le.1 h.last
  rw [rowsBefore, rows, hsize, Nat.max_eq_left hfirst, ← h.total_toNat hroom]
  rcases Nat.eq_zero_or_pos (p.pageIndex.toNat - 1) with hindex | hindex
  · rw [hindex, Nat.zero_mul, h.total_toNat hroom]
    exact List.length_pos_iff.2 hrecords
  · exact (lt_pageCount_iff h.size hindex).1 (by omega)

theorem visible_ne_nil (h : p.Framed) (hroom : p.records.length < 0x8000000000000000)
    (hrecords : p.records ≠ []) : p.visible ≠ [] := by
  have hrest : p.records.drop p.rowsBefore ≠ [] :=
    fun he => Nat.not_le.2 (h.rowsBefore_lt hroom hrecords) (List.drop_eq_nil_iff.1 he)
  have hrows : p.rows ≠ 0 := Nat.ne_of_gt (Nat.le_max_right _ 1)
  rw [visible_eq hroom]
  intro he
  rcases List.take_eq_nil_iff.1 he with he | he
  · exact hrows he
  · exact hrest he

end Page.Framed

namespace Store

variable {s : Store} {index count : UInt64}

theorem one_le_clampIndex (hcount : 1 ≤ count) : 1 ≤ clampIndex index count := by
  unfold clampIndex
  split
  · exact UInt64.le_refl 1
  · next h =>
    split
    · exact hcount
    · exact UInt64.not_lt.1 h

theorem clampIndex_le (hcount : 1 ≤ count) : clampIndex index count ≤ count := by
  unfold clampIndex
  split
  · exact hcount
  · split
    · exact UInt64.le_refl count
    · next h => exact UInt64.not_lt.1 h

theorem clampIndex_of_one_le (hindex : 1 ≤ index) : clampIndex index count = min index count := by
  change _ = if index ≤ count then index else count
  rw [clampIndex, if_neg (UInt64.not_lt.2 hindex)]
  by_cases h : index ≤ count
  · rw [if_pos h, if_neg (UInt64.not_lt.2 h)]
  · rw [if_neg h, if_pos (UInt64.not_le.1 h)]

/-- What is done to a store. The ticket of a result need not be current. -/
inductive Operation where
  | begin
  | replace (t : Ticket) (records : List Record)
  | fail (t : Ticket) (message : String)
  | invalidate
  | clear
  | setPageIndex (index : UInt64)
  | setPageSize (size : UInt64)
  | resetWindow

def step (s : Store) : Operation → Store
  | .begin => s.begin.2
  | .replace t records => (s.replace t records).2
  | .fail t message => (s.fail t message).2
  | .invalidate => s.invalidate
  | .clear => s.clear
  | .setPageIndex index => s.setPageIndex index
  | .setPageSize size => s.setPageSize size
  | .resetWindow => s.resetWindow

def run (s : Store) (operations : List Operation) : Store := operations.foldl step s

theorem replace_of_current {t : Ticket} (h : s.isCurrent t = true) (records : List Record) :
    s.replace t records =
      (.applied, { s with page := rewindow s.page records, lastError := none }) := by
  rw [replace, if_pos h]

theorem replace_of_stale {t : Ticket} (h : s.isCurrent t = false) (records : List Record) :
    s.replace t records = (.stale, s) := by
  rw [replace, if_neg (Bool.eq_false_iff.1 h)]

theorem fail_of_stale {t : Ticket} (h : s.isCurrent t = false) (message : String) :
    s.fail t message = (.stale, s) := by
  rw [fail, if_neg (Bool.eq_false_iff.1 h)]

theorem fail_page (s : Store) (t : Ticket) (message : String) :
    (s.fail t message).2.page = s.page := by
  unfold fail
  split <;> rfl

theorem framed_new (displayPageSize : UInt64) : (new displayPageSize).page.Framed :=
  ⟨rfl, one_le_max _, UInt64.le_refl 1, Page.one_le_pageCount _⟩

theorem framed_clamped (h : s.page.Framed) (index : UInt64) :
    (s.setPageIndex index).page.Framed :=
  have hcount := s.page.one_le_pageCount
  ⟨h.total, h.size, one_le_clampIndex hcount, clampIndex_le hcount⟩

theorem framed_rewindow {old : Page} (h : old.Framed) (records : List Record) :
    (rewindow old records).Framed :=
  have hcount := (rewindow old records).one_le_pageCount
  ⟨rfl, h.size, one_le_clampIndex hcount, clampIndex_le hcount⟩

theorem framed_step (h : s.page.Framed) (operation : Operation) :
    (step s operation).page.Framed := by
  cases operation with
  | begin => exact h
  | replace t records =>
    cases ht : s.isCurrent t with
    | true =>
      rw [step, replace_of_current ht]
      exact framed_rewindow h records
    | false =>
      rw [step, replace_of_stale ht]
      exact h
  | fail t message =>
    rw [step, fail_page]
    exact h
  | invalidate => exact h
  | clear => exact ⟨rfl, h.size, UInt64.le_refl 1, Page.one_le_pageCount _⟩
  | setPageIndex index => exact framed_clamped h index
  | setPageSize size => exact ⟨h.total, one_le_max size, UInt64.le_refl 1, Page.one_le_pageCount _⟩
  | resetWindow => exact ⟨h.total, h.size, UInt64.le_refl 1, Page.one_le_pageCount _⟩

theorem framed_run (operations : List Operation) (h : s.page.Framed) :
    (run s operations).page.Framed := by
  induction operations generalizing s with
  | nil => exact h
  | cons operation operations ih => exact ih (framed_step h operation)

/-- The records are new, and the window is the old one as far as the new page reaches. -/
structure Replaces (new old : Page) (records : List Record) : Prop where
  records : new.records = records
  size : new.pageSize = old.pageSize
  index : new.pageIndex = min old.pageIndex new.pageCount

theorem replaces_rewindow {old : Page} (h : old.Framed) (records : List Record) :
    Replaces (rewindow old records) old records :=
  ⟨rfl, rfl, clampIndex_of_one_le h.first⟩

/-- After any operations the window lies on the page, and it shows a row if there is one: a list
that fits in memory has fewer than `0x8000000000000000` items. No index is ever clamped to an empty
range. A result that comes in time keeps the window as far as it can; one that comes too late
changes nothing, and a failure leaves the page and its window in any case. -/
theorem window_on_page (displayPageSize : UInt64) (operations : List Operation) :
    let s := run (new displayPageSize) operations
    s.page.Framed ∧
    (s.page.records.length < 0x8000000000000000 → s.page.total.toNat = s.page.records.length ∧
      (s.page.records ≠ [] → s.page.visible ≠ [])) ∧
    (∀ p : Page, 1 ≤ p.pageCount) ∧
    (∀ t records, s.isCurrent t = true → (s.replace t records).1 = .applied ∧
      Replaces (s.replace t records).2.page s.page records) ∧
    (∀ t, s.isCurrent t = false → (∀ records, s.replace t records = (.stale, s)) ∧
      ∀ message, s.fail t message = (.stale, s)) ∧
    ∀ t message, (s.fail t message).2.page = s.page := by
  intro s
  have hframed : s.page.Framed := framed_run operations (framed_new displayPageSize)
  refine ⟨hframed, ?_, Page.one_le_pageCount, ?_, ?_, fail_page s⟩
  · intro hroom
    exact ⟨hframed.total_toNat hroom, hframed.visible_ne_nil hroom⟩
  · intro t records ht
    rw [replace_of_current ht]
    exact ⟨rfl, replaces_rewindow hframed records⟩
  · intro t ht
    exact ⟨replace_of_stale ht, fail_of_stale ht⟩

def Sample.rows (ids : List String) : List Record :=
  ids.map fun id => ⟨id, [], none, none, none, .null⟩

def Sample.paging : List Operation :=
  [.begin, .replace ⟨1⟩ (rows ["a", "b", "c", "d", "e"]), .setPageIndex 0xFFFFFFFFFFFFFFFF, .begin]

/-- The window was on the third display page. Three rows fill two, so it moves to the second. -/
theorem window_moved_back :
    let s := run (new 2) Sample.paging
    s.isCurrent ⟨1⟩ = false ∧ s.isCurrent ⟨2⟩ = true ∧ s.page.pageIndex = 3 ∧ s.page.visible ≠ [] ∧
    (s.replace ⟨1⟩ (Sample.rows ["x"])).1 = .stale ∧
    (s.replace ⟨2⟩ (Sample.rows ["x", "y", "z"])).2.page.pageIndex = 2 := by
  obtain ⟨-, hrows, -, happlied, hstale, -⟩ := window_on_page 2 Sample.paging
  obtain ⟨-, hvisible⟩ := hrows (by decide)
  obtain ⟨-, hreplaces⟩ := happlied ⟨2⟩ (Sample.rows ["x", "y", "z"]) (by decide)
  obtain ⟨hlate, -⟩ := hstale ⟨1⟩ (by decide)
  refine ⟨by decide, by decide, by decide, hvisible (List.cons_ne_nil _ _), ?_, ?_⟩
  · rw [hlate]
  · rw [hreplaces.index]
    decide

end Store

end ClusterConsole
