import ClusterConsole.Time.Calendar

/-!
# The days of the calendar

A day of an era of 400 years has a century, a group of four years in it, a year in that and a day of
the year, and the calendar's arithmetic finds them. So every day has a valid date, and counting to
that date gives the day back.
-/

namespace ClusterConsole.Time

/-- A day of an era by its place. Only the last year of a group of four has a day 365, and of the
last groups of a century only that at the end of the era. -/
structure Place where
  century : Nat
  group : Nat
  year : Nat
  day : Nat
  century_le : century ≤ 3
  group_le : group ≤ 24
  year_le : year ≤ 3
  day_le : day ≤ 365
  leap : day = 365 → year = 3 ∧ (group = 24 → century = 3)

namespace Place

variable (p : Place)

def yearOfEra : Nat := 100 * p.century + 4 * p.group + p.year

def dayOfCentury : Nat := 1461 * p.group + 365 * p.year + p.day

def dayOfEra : Nat := 36524 * p.century + p.dayOfCentury

theorem exists_dayOfEra {n : Nat} (h : n < 146097) : ∃ p : Place, p.dayOfEra = n := by
  -- the last century of an era and the last year of a group have a day more than the others
  obtain ⟨c, r, hc, hr, hlast, rfl⟩ : ∃ c r, c ≤ 3 ∧ r ≤ 36524 ∧ (r = 36524 → c = 3) ∧
      36524 * c + r = n := by
    refine ⟨min (n / 36524) 3, n - 36524 * min (n / 36524) 3, ?_⟩
    omega
  obtain ⟨q, s, hq, hs, rfl⟩ : ∃ q s, q ≤ 24 ∧ s < 1461 ∧ 1461 * q + s = r :=
    ⟨r / 1461, r % 1461, by omega, by omega, by omega⟩
  obtain ⟨j, d, hj, hd, hleap, rfl⟩ : ∃ j d, j ≤ 3 ∧ d ≤ 365 ∧ (d = 365 → j = 3) ∧
      365 * j + d = s := by
    refine ⟨min (s / 365) 3, s - 365 * min (s / 365) 3, ?_⟩
    omega
  refine ⟨⟨c, q, j, d, hc, hq, hj, hd, fun hday => ⟨hleap hday, fun hgroup => hlast ?_⟩⟩, ?_⟩
  · have hyear := hleap hday
    omega
  · simp only [dayOfEra, dayOfCentury]
    omega

theorem yearOfEra_lt : p.yearOfEra < 400 := by
  obtain ⟨c, q, j, d, hc, hq, hj, hd, hleap⟩ := p
  simp only [yearOfEra]
  omega

theorem dayOfCentury_lt : p.dayOfCentury < 36524 + if p.century = 3 then 1 else 0 := by
  obtain ⟨c, q, j, d, hc, hq, hj, hd, hleap⟩ := p
  simp only [dayOfCentury]
  split
  · omega
  · by_cases hday : d = 365 <;> omega

theorem dayOfEra_lt : p.dayOfEra < 146097 := by
  have hc := p.century_le
  have hlt := p.dayOfCentury_lt
  rw [dayOfEra]
  split at hlt <;> omega

theorem dayOfEra_div_century : p.dayOfEra / 36524 = p.century + p.dayOfEra / 146096 := by
  have hc := p.century_le
  have hlt := p.dayOfCentury_lt
  simp only [dayOfEra]
  split at hlt <;> omega

theorem yearOfEra_eq :
    (p.dayOfEra - p.dayOfEra / 1460 + p.dayOfEra / 36524 - p.dayOfEra / 146096) / 365 =
      p.yearOfEra := by
  rw [dayOfEra_div_century]
  obtain ⟨c, q, j, d, hc, hq, hj, hd, hleap⟩ := p
  simp only [yearOfEra, dayOfEra, dayOfCentury]
  generalize hn : 36524 * c + (1461 * q + 365 * j + d) = n
  -- a group has one day more than 1460, so beside the groups a quotient `e` of 0 or 1 is left
  obtain ⟨e, he⟩ : ∃ e, e = (24 * c + q + 365 * j + d) / 1460 := ⟨_, rfl⟩
  have hgroups : n / 1460 = 25 * c + q + e := by omega
  have hday : e ≤ d ∧ d ≤ 364 + e := by omega
  rw [hgroups]
  omega

theorem dayOfEra_eq :
    p.dayOfEra = p.yearOfEra * 365 + p.yearOfEra / 4 - p.yearOfEra / 100 + p.day := by
  obtain ⟨c, q, j, d, hc, hq, hj, hd, hleap⟩ := p
  simp only [yearOfEra, dayOfEra, dayOfCentury]
  have hfour : (100 * c + 4 * q + j) / 4 = 25 * c + q := by omega
  have hhundred : (100 * c + 4 * q + j) / 100 = c := by omega
  rw [hfour, hhundred]
  omega

end Place

namespace Date

def ofYearDay (year : Int) (day : Nat) : Date :=
  let mp := (5 * day + 2) / 153
  let month := if mp < 10 then mp + 3 else mp - 9
  ⟨year + (if month ≤ 2 then 1 else 0), month, day - (153 * mp + 2) / 5 + 1⟩

theorem exists_place (n : Int) :
    ∃ (era : Int) (p : Place), n = era * daysPerEra + p.dayOfEra - epochOffset := by
  have hlt : ((n + epochOffset) % daysPerEra).toNat < 146097 := by
    rw [daysPerEra]
    omega
  obtain ⟨p, hp⟩ := Place.exists_dayOfEra hlt
  refine ⟨(n + epochOffset) / daysPerEra, p, ?_⟩
  rw [hp, daysPerEra]
  omega

theorem ofDays_place (era : Int) (p : Place) :
    ofDays (era * daysPerEra + p.dayOfEra - epochOffset) =
      ofYearDay (era * 400 + p.yearOfEra) p.day := by
  have hlt := p.dayOfEra_lt
  have hera : (era * daysPerEra + p.dayOfEra - epochOffset + epochOffset) / daysPerEra = era := by
    rw [daysPerEra]
    omega
  have hday : ((era * daysPerEra + p.dayOfEra - epochOffset + epochOffset) %
      daysPerEra).toNat = p.dayOfEra := by
    rw [daysPerEra]
    omega
  have hleft : p.dayOfEra - (365 * p.yearOfEra + p.yearOfEra / 4 - p.yearOfEra / 100) = p.day := by
    rw [p.dayOfEra_eq, Nat.mul_comm, Nat.add_sub_cancel_left]
  simp only [ofDays, hera, hday, p.yearOfEra_eq, hleft, ofYearDay]

theorem toDays_ofYearDay (era : Int) (p : Place) :
    (ofYearDay (era * 400 + p.yearOfEra) p.day).toDays =
      era * daysPerEra + p.dayOfEra - epochOffset := by
  have hlt := p.yearOfEra_lt
  have hd := p.day_le
  obtain ⟨mp, hmp⟩ : ∃ mp, mp = (5 * p.day + 2) / 153 := ⟨_, rfl⟩
  have hstart : (153 * mp + 2) / 5 ≤ p.day := by omega
  have hera : (era * 400 + (p.yearOfEra : Int)) / 400 = era := by omega
  have hyear : ((era * 400 + (p.yearOfEra : Int)) % 400).toNat = p.yearOfEra := by omega
  by_cases hmonth : mp < 10
  · have hlate : ¬mp + 3 ≤ 2 := by omega
    have hafter : 2 < mp + 3 := by omega
    simp only [ofYearDay, toDays, ← hmp, if_pos hmonth, if_neg hlate, if_pos hafter,
      Int.add_zero, hera, hyear, Nat.add_sub_cancel]
    rw [p.dayOfEra_eq]
    omega
  · have hearly : mp - 9 ≤ 2 := by omega
    have hbefore : ¬2 < mp - 9 := by omega
    have hback : mp - 9 + 9 = mp := by omega
    simp only [ofYearDay, toDays, ← hmp, if_neg hmonth, if_pos hearly, if_neg hbefore,
      Int.add_sub_cancel, hera, hyear, hback]
    rw [p.dayOfEra_eq]
    omega

theorem isLeap_of_place (era : Int) {p : Place} (h : p.day = 365) :
    isLeap (era * 400 + p.yearOfEra + 1) = true := by
  obtain ⟨hyear, hgroup⟩ := p.leap h
  have hc := p.century_le
  have hg := p.group_le
  simp only [isLeap, Place.yearOfEra, hyear, Bool.and_eq_true, Bool.or_eq_true, beq_iff_eq,
    bne_iff_ne]
  omega

theorem monthLength_eq (year : Int) : ∀ {mp : Nat}, mp < 11 →
    monthLength year (if mp < 10 then mp + 3 else mp - 9) =
      (153 * (mp + 1) + 2) / 5 - (153 * mp + 2) / 5
  | 0, _ | 1, _ | 2, _ | 3, _ | 4, _ | 5, _ | 6, _ | 7, _ | 8, _ | 9, _ | 10, _ => rfl
  | _ + 11, h => absurd h (by omega)

theorem isValid_ofYearDay (era : Int) (p : Place) :
    (ofYearDay (era * 400 + p.yearOfEra) p.day).isValid = true := by
  have hd := p.day_le
  have hleap := isLeap_of_place era (p := p)
  generalize p.day = d at hd hleap
  generalize era * 400 + (p.yearOfEra : Int) = year at hleap
  obtain ⟨mp, hmp⟩ : ∃ mp, mp = (5 * d + 2) / 153 := ⟨_, rfl⟩
  have hle : mp ≤ 11 := by omega
  simp only [ofYearDay, isValid, ← hmp, Bool.and_eq_true, decide_eq_true_eq]
  refine ⟨⟨⟨?_, ?_⟩, by omega⟩, ?_⟩
  · split <;> omega
  · split <;> omega
  · by_cases hlast : mp = 11
    -- February ends the year, and only a leap year has a day 365
    · subst hlast
      by_cases hday : d = 365
      · have hlength : monthLength (year + 1) 2 = 29 := if_pos (hleap hday)
        exact hlength ▸ (by omega : d - 337 + 1 ≤ 29)
      · have hlength : 28 ≤ monthLength (year + 1) 2 := by
          rw [monthLength]
          split <;> omega
        exact Nat.le_trans (by omega : d - 337 + 1 ≤ 28) hlength
    · rw [monthLength_eq _ (by omega)]
      omega

theorem monthLength_le (year : Int) (month : Nat) : monthLength year month ≤ 31 := by
  unfold monthLength
  split
  · split <;> decide
  all_goals decide

theorem month_day_of_isValid {d : Date} (h : d.isValid = true) :
    (1 ≤ d.month ∧ d.month ≤ 12) ∧ 1 ≤ d.day ∧ d.day ≤ 31 := by
  have hlength := monthLength_le d.year d.month
  simp only [isValid, Bool.and_eq_true, decide_eq_true_eq] at h
  omega

theorem toDays_ofDays (n : Int) : (ofDays n).toDays = n := by
  obtain ⟨era, p, rfl⟩ := exists_place n
  rw [ofDays_place, toDays_ofYearDay]

theorem isValid_ofDays (n : Int) : (ofDays n).isValid = true := by
  obtain ⟨era, p, rfl⟩ := exists_place n
  rw [ofDays_place]
  exact isValid_ofYearDay era p

end Date

end ClusterConsole.Time
