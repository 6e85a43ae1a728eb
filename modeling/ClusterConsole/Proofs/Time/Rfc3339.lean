import Mathlib.Algebra.Group.Nat.Defs
import ClusterConsole.Proofs.Text.Integer
import ClusterConsole.Proofs.Time.Calendar
import ClusterConsole.Time.Rfc3339

/-!
# Instants are read back

Each part of the text of an instant is taken off its front and gives its number, and the date counts
back to the day. The parts stand one after the other, so each lemma has the text that follows.
-/

namespace ClusterConsole

namespace Time

variable {width n : Nat} {rest : List Char}

theorem padded_eq (width n : Nat) :
    padded width n =
      List.replicate (width - (Nat.toDigits 10 n).length) '0' ++ Nat.toDigits 10 n := by
  rw [padded, Nat.toString_eq_repr, Nat.toList_repr]

theorem padded_figures (width n : Nat) : Text.Figures n (padded width n) :=
  ⟨_, padded_eq width n⟩

theorem length_padded (hwidth : 0 < width) (h : n < 10 ^ width) :
    (padded width n).length = width := by
  have hlength : (Nat.toDigits 10 n).length ≤ width :=
    (Nat.length_toDigits_le_iff (by decide) hwidth).2 h
  rw [padded_eq, List.length_append, List.length_replicate]
  omega

namespace Reader

/-- Reading stops after `count` digits: no more are wanted, or no digit follows. -/
def Stops (width : Option Nat) (count : Nat) (rest : List Char) : Prop :=
  width = some count ∨ ((∀ c ∈ rest.head?, c.isDigit = false) ∧ ∀ k ∈ width, count ≤ k)

theorem digits_append {ds : List Char} (hds : ∀ c ∈ ds, c.isDigit = true) :
    ∀ {width : Option Nat} (acc : Nat), Stops width ds.length rest →
      digits acc width (ds ++ rest) = (Nat.ofDigitChars 10 ds acc, rest) := by
  induction ds with
  | nil =>
    rintro width acc (rfl | ⟨hrest, -⟩)
    · simp [digits]
    · cases rest with
      | nil => cases width with
        | none => simp [digits]
        | some k => cases k <;> simp [digits]
      | cons c cs =>
        have hc : c.isDigit = false := hrest c rfl
        cases width with
        | none => simp [digits, hc]
        | some k => cases k <;> simp [digits, hc]
  | cons d ds ih =>
    intro width acc hstops
    have hd : d.isDigit = true := hds d (.head _)
    have hstep : acc * 10 + Text.digitValue d = 10 * acc + (d.toNat - '0'.toNat) := by
      rw [Text.digitValue, Nat.mul_comm]
    have hnext : Stops (width.map (· - 1)) ds.length rest := by
      rcases hstops with rfl | ⟨hrest, hwidth⟩
      · exact .inl rfl
      · refine .inr ⟨hrest, fun k hk => ?_⟩
        obtain ⟨l, hl, rfl⟩ := Option.map_eq_some_iff.1 hk
        exact Nat.le_sub_one_of_lt (hwidth l hl)
    have hrec := ih (fun c hc => hds c (.tail _ hc)) (10 * acc + (d.toNat - '0'.toNat)) hnext
    rw [Nat.ofDigitChars_cons, ← hrec, List.cons_append]
    cases width with
    | none => simp [digits, hd, hstep]
    | some k =>
      cases k with
      | zero =>
        rcases hstops with h | ⟨-, h⟩
        · cases h
        · exact absurd (h 0 rfl) (by simp)
      | succ k => simp [digits, hd, hstep]

theorem number_padded {limit : Option Nat} (hn : n < 0x8000000000000000)
    (hstops : Stops limit (padded width n).length rest) :
    number limit (padded width n ++ rest) = .ok (n, rest) := by
  have hdigits := digits_append (fun c hc => (padded_figures width n).isDigit hc) 0 hstops
  rw [(padded_figures width n).value] at hdigits
  obtain ⟨d, ds, hpadded, hd⟩ := (padded_figures width n).exists_cons
  rw [hpadded, List.cons_append] at hdigits ⊢
  simp only [number, hd, if_true, hdigits, hn]

theorem trimStart_padded (width n : Nat) (rest : List Char) :
    Text.trimStart (padded width n ++ rest) = padded width n ++ rest := by
  obtain ⟨d, ds, hpadded, hd⟩ := (padded_figures width n).exists_cons
  rw [hpadded, List.cons_append, Text.trimStart,
    List.dropWhile_cons_of_neg (by simp [Text.isBlank_of_isDigit hd])]

theorem part_padded {low high : Nat} (hlow : low ≤ n) (hhigh : n ≤ high) (h : n < 100) :
    part low high (padded 2 n ++ rest) = .ok (n, rest) := by
  have hlength : (padded 2 n).length = 2 := length_padded (by decide) h
  have hnumber : number (some 2) (padded 2 n ++ rest) = .ok (n, rest) :=
    number_padded (by omega) (.inl (by rw [hlength]))
  rw [part, trimStart_padded, hnumber]
  exact if_pos ⟨hlow, hhigh⟩

theorem mark_cons {c : Char} (h : Text.isBlank c = false) (rest : List Char) :
    mark c (c :: rest) = .ok rest := by
  rw [mark, Text.trimStart, List.dropWhile_cons_of_neg (by simp [h])]
  exact if_pos rfl

theorem stops_of_no_digit {limit : Option Nat} {count : Nat} {c : Char} (hc : c.isDigit = false)
    (h : ∀ k ∈ limit, count ≤ k) (rest : List Char) : Stops limit count (c :: rest) :=
  .inr ⟨fun _ hd => Option.some.inj hd ▸ hc, h⟩

theorem trimStart_yearChars (y : Int) (rest : List Char) :
    Text.trimStart (yearChars y ++ rest) = yearChars y ++ rest := by
  rw [yearChars]
  split
  · exact trimStart_padded 4 y.toNat rest
  · split <;> rfl

theorem year_of_number {y : Nat} {cs : List Char} (hcs : ∀ c ∈ cs.head?, c.isDigit = true)
    (h : number (some 4) cs = .ok (y, rest)) (hy : y < 0x80000000) :
    year cs = .ok ((y : Int), rest) := by
  have hsign : -0x80000000 ≤ (y : Int) ∧ (y : Int) < 0x80000000 := by omega
  unfold year
  split
  · cases hcs '-' rfl
  · cases hcs '+' rfl
  · simp only [h, Except.map, bind, Except.bind, if_pos hsign]

theorem year_yearChars {y : Int} (hlow : -0x80000000 ≤ y) (hhigh : y < 0x80000000)
    (rest : List Char) : year (yearChars y ++ '-' :: rest) = .ok (y, '-' :: rest) := by
  have hnumber : number none (padded 4 y.natAbs ++ '-' :: rest) = .ok (y.natAbs, '-' :: rest) :=
    number_padded (by omega) (stops_of_no_digit rfl (by simp) rest)
  rw [yearChars]
  split
  · next h =>
    have hlength : (padded 4 y.toNat).length = 4 := length_padded (by decide) (by omega)
    have hfour : number (some 4) (padded 4 y.toNat ++ '-' :: rest) = .ok (y.toNat, '-' :: rest) :=
      number_padded (by omega) (.inl (by rw [hlength]))
    have hhead : ∀ c ∈ (padded 4 y.toNat ++ '-' :: rest).head?, c.isDigit = true := by
      obtain ⟨d, ds, hpadded, hd⟩ := (padded_figures 4 y.toNat).exists_cons
      rw [hpadded]
      exact fun c hc => Option.some.inj hc ▸ hd
    have hy : (y.toNat : Int) = y := Int.toNat_of_nonneg h.1
    rw [year_of_number hhead hfour (by omega), hy]
  · next h =>
    split
    · next hneg =>
      have hy : -(y.natAbs : Int) = y := by omega
      simp only [List.cons_append, year, hnumber, Except.map, bind, Except.bind, hy,
        if_pos (And.intro hlow hhigh)]
    · next hpos =>
      have hy : (y.natAbs : Int) = y := by omega
      simp only [List.cons_append, year, hnumber, Except.map, bind, Except.bind, hy,
        if_pos (And.intro hlow hhigh)]

theorem nanos_padded {scaled : Nat} (hwidth : 0 < width) (hle : width ≤ 9) (h : n < 10 ^ width)
    (hscaled : n * 10 ^ (9 - width) = scaled) {c : Char} (hc : c.isDigit = false)
    (rest : List Char) :
    nanos ('.' :: padded width n ++ c :: rest) = .ok (scaled, c :: rest) := by
  have hlength : (padded width n).length = width := length_padded hwidth h
  have hbound : n < 10 ^ 9 := Nat.lt_of_lt_of_le h (Nat.pow_le_pow_right (by decide) hle)
  have hnumber : number (some 9) (padded width n ++ c :: rest) = .ok (n, c :: rest) :=
    number_padded (by omega) (stops_of_no_digit hc (by simpa [hlength] using hle) rest)
  rw [List.cons_append, nanos, hnumber]
  change Except.ok (_ * Nat.pow 10 (9 - _), List.dropWhile Char.isDigit (c :: rest)) = _
  have hcount : (padded width n ++ c :: rest).length - (c :: rest).length = width := by
    rw [List.length_append, hlength, Nat.add_sub_cancel]
  rw [hcount, List.dropWhile_cons_of_neg (by simp [hc])]
  exact congrArg (fun m => Except.ok (m, c :: rest)) hscaled

theorem nanos_fractionChars {nano : Nat} (h : nano < 1000000000) :
    nanos (fractionChars nano ++ ['Z']) = .ok (nano, ['Z']) := by
  rw [fractionChars]
  split
  · next hzero =>
    rw [hzero]
    rfl
  · split
    · exact nanos_padded (by decide) (by decide) (by omega) (by omega) rfl []
    · split
      · exact nanos_padded (by decide) (by decide) (by omega) (by omega) rfl []
      · exact nanos_padded (by decide) (by decide) (by omega) (by omega) rfl []

theorem assemble_ofDays (t : Instant) :
    assemble (Date.ofDays t.day) t.second t.nano 0 = .ok t := by
  obtain ⟨day, second, nano, hday, hsecond, hnano⟩ := t
  have hrange : ((!true) || decide (day < firstDay) || decide (lastDay < day)) = false := by
    simpa using hday
  have hwhole : (day * 86400 + second - 0) / 86400 = day := by omega
  have hleft : ((day * 86400 + second - 0) % 86400).toNat = second := by omega
  simp only [assemble, Date.isValid_ofDays, Date.toDays_ofDays, hrange, hwhole, hleft, Instant.of?,
    dif_pos (And.intro hday (And.intro hsecond hnano))]
  rfl

theorem yearRange_ofDays {day : Int} (h : firstDay ≤ day ∧ day ≤ lastDay) :
    -0x80000000 ≤ (Date.ofDays day).year ∧ (Date.ofDays day).year < 0x80000000 := by
  obtain ⟨era, p, rfl⟩ := Date.exists_place day
  have hyear := p.yearOfEra_lt
  have hday := p.dayOfEra_lt
  rw [Date.ofDays_place]
  rw [firstDay, lastDay, daysPerEra, epochOffset] at h
  simp only [Date.ofYearDay]
  split <;> omega

end Reader

theorem Instant.read_text (t : Instant) (h : t.nano < 1000000000) : read t.text = .ok t := by
  obtain ⟨hlow, hhigh⟩ := Reader.yearRange_ofDays t.day_range
  obtain ⟨⟨hmonth, hmonth'⟩, hday, hday'⟩ := Date.month_day_of_isValid (Date.isValid_ofDays t.day)
  have hsecond := t.second_lt
  have hhour : t.second / 3600 ≤ 23 := by omega
  have hminute : t.second / 60 % 60 ≤ 59 := by omega
  have hlast : t.second % 60 ≤ 60 := by omega
  have hleap : t.second % 60 ≠ 60 := by omega
  have hsum : t.second / 3600 * 3600 + t.second / 60 % 60 * 60 + t.second % 60 = t.second := by
    omega
  have hzone : Reader.zone ['Z'] = .ok (0, []) := rfl
  have hend : (Text.trimStart []).isEmpty = true := rfl
  simp only [read, text, chars, String.toList_ofList, if_pos h, Nat.add_zero, Nat.zero_mul,
    Nat.sub_zero, List.append_assoc, List.cons_append, Reader.instant, bind, Except.bind,
    Reader.trimStart_yearChars, Reader.year_yearChars hlow hhigh,
    Reader.mark_cons (by decide : Text.isBlank '-' = false),
    Reader.mark_cons (by decide : Text.isBlank ':' = false),
    Reader.part_padded hmonth hmonth' (by omega), Reader.part_padded hday hday' (by omega),
    Reader.part_padded (Nat.zero_le _) hhour (by omega),
    Reader.part_padded (Nat.zero_le _) hminute (by omega),
    Reader.part_padded (Nat.zero_le _) hlast (by omega), Reader.nanos_fractionChars h, hzone, hend,
    decide_true, Bool.true_or, if_true, if_neg hleap, hsum]
  exact Reader.assemble_ofDays t

end Time

end ClusterConsole
