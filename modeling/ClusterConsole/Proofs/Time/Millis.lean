import ClusterConsole.Time.Instant

/-!
# Instants by their milliseconds

A number of milliseconds, negative before the epoch, belongs to one instant at most: to one if it
lies between the first and the last of the calendar, and to none beyond. Dividing by the length of a
day with a remainder that is never negative finds that instant.
-/

namespace ClusterConsole.Time

def firstMilli : Int := (Date.mk (-262143) 1 1).toDays * Instant.millisPerDay

def lastMilli : Int := ((Date.mk 262142 12 31).toDays + 1) * Instant.millisPerDay - 1

def InCalendar (n : Int) : Prop := firstMilli ≤ n ∧ n ≤ lastMilli

instance (n : Int) : Decidable (InCalendar n) := inferInstanceAs (Decidable (_ ∧ _))

theorem inCalendar_iff {n : Int} :
    InCalendar n ↔ firstDay ≤ n / Instant.millisPerDay ∧ n / Instant.millisPerDay ≤ lastDay := by
  have hfirst : (Date.mk (-262143) 1 1).toDays = firstDay := by decide
  have hlast : (Date.mk 262142 12 31).toDays = lastDay := by decide
  rw [InCalendar, firstMilli, lastMilli, hfirst, hlast, Instant.millisPerDay]
  omega

namespace Instant

variable {t t' : Instant} {m n : Int}

/-- The instant is so many milliseconds after the epoch and no part of another, and not in a leap
second. -/
structure IsAt (t : Instant) (n : Int) : Prop where
  millis : t.toMillis = n
  whole : t.nano % 1000000 = 0
  no_leap : t.nano < 1000000000

theorem IsAt.parts (h : t.IsAt n) :
    t.day = n / millisPerDay ∧ t.second * 1000 + t.nano / 1000000 = n % millisPerDay := by
  have hsecond := t.second_lt
  have hnano := h.no_leap
  have hmillis := h.millis
  rw [toMillis, millisPerDay] at hmillis
  rw [millisPerDay]
  omega

theorem IsAt.inCalendar (h : t.IsAt n) : InCalendar n := by
  rw [inCalendar_iff, ← h.parts.1]
  exact t.day_range

theorem IsAt.instant_eq (h : t.IsAt n) (h' : t'.IsAt n) : t = t' := by
  obtain ⟨hday, hrest⟩ := h.parts
  obtain ⟨hday', hrest'⟩ := h'.parts
  have hnano := h.no_leap
  have hnano' := h'.no_leap
  have hwhole := h.whole
  have hwhole' := h'.whole
  obtain ⟨day, second, nano, _, _, _⟩ := t
  obtain ⟨day', second', nano', _, _, _⟩ := t'
  rw [mk.injEq]
  dsimp only at *
  exact ⟨hday.trans hday'.symm, by omega, by omega⟩

theorem isAt_of_ofMillis? (h : ofMillis? n = some t) : t.IsAt n := by
  have hparts := Int.mul_ediv_add_emod n millisPerDay
  rw [ofMillis?, of?] at h
  split at h
  · cases h
    constructor
    · rw [toMillis]
      dsimp only
      rw [millisPerDay] at hparts ⊢
      omega
    · exact Nat.mul_mod_left _ _
    · dsimp only
      omega
  · cases h

theorem exists_ofMillis? (h : InCalendar n) : ∃ t, ofMillis? n = some t := by
  have hsecond : (n % millisPerDay).toNat / 1000 < 86400 := by
    rw [millisPerDay]
    omega
  have hnano : (n % millisPerDay).toNat % 1000 * 1000000 < 2000000000 := by omega
  exact ⟨_, dif_pos ⟨inCalendar_iff.1 h, hsecond, hnano⟩⟩

theorem ofMillis?_eq_some_iff : ofMillis? n = some t ↔ t.IsAt n := by
  constructor
  · exact isAt_of_ofMillis?
  · intro h
    obtain ⟨t', ht'⟩ := exists_ofMillis? h.inCalendar
    rw [ht', h.instant_eq (isAt_of_ofMillis? ht')]

theorem isSome_ofMillis?_iff : (ofMillis? n).isSome = true ↔ InCalendar n := by
  rw [Option.isSome_iff_exists]
  refine ⟨?_, exists_ofMillis?⟩
  rintro ⟨t, ht⟩
  exact (isAt_of_ofMillis? ht).inCalendar

theorem ofMillis?_inj (h : InCalendar m) : ofMillis? m = ofMillis? n ↔ m = n := by
  refine ⟨fun he => ?_, fun he => by rw [he]⟩
  obtain ⟨t, ht⟩ := exists_ofMillis? h
  rw [ht] at he
  exact (isAt_of_ofMillis? ht).millis.symm.trans (isAt_of_ofMillis? he.symm).millis

end Instant

end ClusterConsole.Time
