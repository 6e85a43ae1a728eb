/-!
# The proleptic Gregorian calendar

Days are counted from 1970-01-01. A year begins in March here, so that the leap day is its last and
the months before it have a fixed pattern; eras of 400 years have equal length.
-/

namespace ClusterConsole.Time

structure Date where
  year : Int
  month : Nat
  day : Nat
  deriving DecidableEq, Repr

def epochOffset : Int := 719468

def daysPerEra : Int := 146097

namespace Date

def ofDays (n : Int) : Date :=
  let z := n + epochOffset
  let era := z / daysPerEra
  let doe := (z % daysPerEra).toNat
  let yoe := (doe - doe / 1460 + doe / 36524 - doe / 146096) / 365
  let doy := doe - (365 * yoe + yoe / 4 - yoe / 100)
  let mp := (5 * doy + 2) / 153
  let month := if mp < 10 then mp + 3 else mp - 9
  ⟨era * 400 + yoe + (if month ≤ 2 then 1 else 0), month, doy - (153 * mp + 2) / 5 + 1⟩

def toDays (d : Date) : Int :=
  let y := if d.month ≤ 2 then d.year - 1 else d.year
  let era := y / 400
  let yoe := (y % 400).toNat
  let mp := if 2 < d.month then d.month - 3 else d.month + 9
  let doy := (153 * mp + 2) / 5 + d.day - 1
  let doe := yoe * 365 + yoe / 4 - yoe / 100 + doy
  era * daysPerEra + doe - epochOffset

def isLeap (year : Int) : Bool := year % 4 == 0 && (year % 100 != 0 || year % 400 == 0)

def monthLength (year : Int) (month : Nat) : Nat :=
  match month with
  | 2 => if isLeap year then 29 else 28
  | 4 | 6 | 9 | 11 => 30
  | _ => 31

def isValid (d : Date) : Bool :=
  1 ≤ d.month && d.month ≤ 12 && 1 ≤ d.day && d.day ≤ monthLength d.year d.month

example : ofDays 0 = ⟨1970, 1, 1⟩ ∧ toDays ⟨2000, 2, 29⟩ = 11016 := by decide

end Date

end ClusterConsole.Time
