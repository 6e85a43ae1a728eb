import ClusterConsole.Proofs.Page.Window

/-!
# No operation of the window fails

Four operations can fail: a difference goes below zero, a sum goes beyond the words, a number is
divided by zero, a slice reaches behind the list. Here each of them gives nothing when it fails, and
the count of display pages and the window are computed through them. Both are there for all words a
page can have, whether or not these agree with its records, and are the ones that are shown.
-/

namespace ClusterConsole

namespace Word

variable {a b : UInt64}

def difference? (a b : UInt64) : Option UInt64 := if b ≤ a then some (a - b) else none

def sum? (a b : UInt64) : Option UInt64 :=
  if a.toNat + b.toNat < 0x10000000000000000 then some (a + b) else none

def quotient? (a b : UInt64) : Option UInt64 := if b = 0 then none else some (a / b)

def remainder? (a b : UInt64) : Option UInt64 := if b = 0 then none else some (a % b)

theorem difference?_of_le (h : b ≤ a) : difference? a b = some (a - b) := if_pos h

theorem sum?_of_lt (h : a.toNat + b.toNat < 0x10000000000000000) : sum? a b = some (a + b) :=
  if_pos h

theorem quotient?_of_ne (h : b ≠ 0) : quotient? a b = some (a / b) := if_neg h

theorem remainder?_of_ne (h : b ≠ 0) : remainder? a b = some (a % b) := if_neg h

end Word

namespace Page

variable {α : Type} {p : Page} {a b : UInt64} {xs : List α} {first last : Nat}

def slice? (xs : List α) (first last : Nat) : Option (List α) :=
  if first ≤ last ∧ last ≤ xs.length then some ((xs.drop first).take (last - first)) else none

theorem slice?_of_le (hfirst : first ≤ last) (hlast : last ≤ xs.length) :
    slice? xs first last = some ((xs.drop first).take (last - first)) :=
  if_pos ⟨hfirst, hlast⟩

def divUp? (a b : UInt64) : Option UInt64 := do
  let quotient ← Word.quotient? a b
  let rest ← Word.remainder? a b
  if rest = 0 then return quotient else Word.sum? quotient 1

def pageCount? (p : Page) : Option UInt64 :=
  if p.pageSize = 0 then some 1 else (divUp? p.total p.pageSize).map fun n => max n 1

def visible? (p : Page) : Option (List Record) := do
  let size := max p.pageSize 1
  let before ← Word.difference? (max p.pageIndex 1) 1
  let start := saturatingMul before size
  if p.records.length ≤ start.toNat then return []
  let stop ← Word.sum? start size
  slice? p.records start.toNat (min stop.toNat p.records.length)

theorem divUp?_of_ne (hb : b ≠ 0) : divUp? a b = some (divUp a b) := by
  have hpos : 0 < b.toNat :=
    Nat.pos_of_ne_zero fun hzero => hb ((toNat_eq_zero_iff b).1 hzero)
  rw [divUp?, Word.quotient?_of_ne hb, Word.remainder?_of_ne hb, divUp]
  change (if a % b = 0 then some (a / b) else Word.sum? (a / b) 1) = _
  split
  · rfl
  · next hrest =>
    rw [mod_eq_zero_iff] at hrest
    refine Word.sum?_of_lt ?_
    rw [UInt64.toNat_div]
    exact succ_quotient_lt hpos hrest

theorem pageCount?_eq (p : Page) : p.pageCount? = some p.pageCount := by
  unfold pageCount? pageCount
  split
  · rfl
  · next hsize =>
    rw [divUp?_of_ne hsize]
    rfl

theorem visible?_eq (h : p.records.length < 0x8000000000000000) :
    p.visible? = some p.visible := by
  have hrows : (max p.pageSize 1).toNat = p.rows := toNat_max _ _
  have hstart := windowStart_toNat p
  have hend := windowEnd_lt h
  rw [visible?, Word.difference?_of_le (one_le_max _), visible]
  dsimp only [Option.bind_eq_bind, Option.bind_some]
  generalize saturatingMul (max p.pageIndex 1 - 1) (max p.pageSize 1) = start at hstart ⊢
  split
  · rfl
  · next hbegins =>
    have hroom : start.toNat + (max p.pageSize 1).toNat < 0x10000000000000000 := by omega
    have hstop : (start + max p.pageSize 1).toNat = start.toNat + p.rows := by
      rw [UInt64.toNat_add, Nat.mod_eq_of_lt hroom, hrows]
    rw [Word.sum?_of_lt hroom]
    exact slice?_of_le (by omega) (Nat.min_le_right _ _)

/-- Whatever the words of a page are, no operation of its count or its window fails, and the window
has the rows it has in numbers that do not end. A list in memory has fewer than
`0x8000000000000000` items. -/
theorem window_never_fails (p : Page) (h : p.records.length < 0x8000000000000000) :
    p.pageCount? = some p.pageCount ∧ p.visible? = some p.visible ∧
    p.visible = (p.records.drop ((max p.pageIndex.toNat 1 - 1) * max p.pageSize.toNat 1)).take
      (max p.pageSize.toNat 1) :=
  ⟨p.pageCount?_eq, visible?_eq h, visible_eq h⟩

/-- Three rows of a page whose total is none of them, and whose window is as far behind and as large
as words allow. -/
def Sample.stray : Page :=
  ⟨["a", "b", "c"].map fun id => ⟨id, [], none, none, none, .null⟩, 0, 0xFFFFFFFFFFFFFFFF,
    0xFFFFFFFFFFFFFFFF⟩

/-- The window begins behind the rows, where the product saturates. With an index of 0 it is the
first one, and it ends at the greatest word. -/
theorem stray_window :
    let first : Page := { Sample.stray with pageIndex := 0 }
    Sample.stray.records.length < 0x8000000000000000 ∧
    Sample.stray.pageCount? = some 1 ∧ Sample.stray.visible? = some [] ∧
    first.visible? = some Sample.stray.records := by
  intro first
  have hroom : Sample.stray.records.length < 0x8000000000000000 := by decide
  obtain ⟨hcount, hvisible, hrows⟩ := window_never_fails Sample.stray hroom
  obtain ⟨-, hfirst, hfirstRows⟩ := window_never_fails first hroom
  refine ⟨hroom, ?_, ?_, ?_⟩
  · rw [hcount]
    decide
  · rw [hvisible, hrows, List.drop_of_length_le (by decide), List.take_nil]
  · have hbefore : max first.pageIndex.toNat 1 - 1 = 0 := by decide
    rw [hfirst, hfirstRows, hbefore, Nat.zero_mul, List.drop_zero,
      List.take_of_length_le (by decide)]

end Page

end ClusterConsole
