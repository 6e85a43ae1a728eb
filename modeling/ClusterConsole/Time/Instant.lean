import ClusterConsole.Time.Calendar

/-!
# Instants

An instant is a day, a second of that day and nanoseconds. The nanoseconds of a leap second go on
beyond a thousand million. Days run from -262143-01-01 to +262142-12-31.
-/

namespace ClusterConsole.Time

def firstDay : Int := -96465292

def lastDay : Int := 95026236

structure Instant where
  day : Int
  second : Nat
  nano : Nat
  day_range : firstDay ≤ day ∧ day ≤ lastDay
  second_lt : second < 86400
  nano_lt : nano < 2000000000
  deriving DecidableEq, Repr

namespace Instant

def of? (day : Int) (second nano : Nat) : Option Instant :=
  if h : (firstDay ≤ day ∧ day ≤ lastDay) ∧ second < 86400 ∧ nano < 2000000000 then
    some ⟨day, second, nano, h.1, h.2.1, h.2.2⟩
  else none

def millisPerDay : Int := 86400000

def ofMillis? (n : Int) : Option Instant :=
  let ms := (n % millisPerDay).toNat
  of? (n / millisPerDay) (ms / 1000) (ms % 1000 * 1000000)

def toMillis (t : Instant) : Int := t.day * millisPerDay + t.second * 1000 + t.nano / 1000000

example : (Date.mk (-262143) 1 1).toDays = firstDay := by decide
example : (Date.mk 262142 12 31).toDays = lastDay := by decide

end Instant

end ClusterConsole.Time
