/-!
# Finite binary64 numbers

A number is its sign and its rank: its place among the non-negative finite numbers in increasing
order. The rank is the number's bit pattern without the sign, so neighbours differ by one, and a
number of rank `r` is `units r` times the least positive number, `1 / scale`.
-/

namespace ClusterConsole

def Binary64.rankLimit : Nat := 0x7ff0000000000000

structure Binary64 where
  negative : Bool
  rank : Fin Binary64.rankLimit
  deriving DecidableEq, Repr

namespace Binary64

/-- How often the least positive number goes into one. -/
def scale : Nat := Nat.pow 2 1074

def hidden : Nat := 0x10000000000000

/-- The magnitude of rank `r` in least positive numbers: a significand of 52 bits, with the leading
bit of a normal number before it, moved up by the exponent. -/
def units (r : Nat) : Nat :=
  if r < hidden then r else (hidden + r % hidden) * Nat.pow 2 (r / hidden - 1)

def rankOfUnits (n : Nat) : Nat :=
  if n < 2 * hidden then n else (n.log2 - 52) * hidden + n / Nat.pow 2 (n.log2 - 52)

/-- The rank nearest to `num / den`; of two equally near ones the even rank. -/
def nearestRank (num den : Nat) : Nat :=
  let low := rankOfUnits (num * scale / den)
  let twice := 2 * num * scale
  let middle := (units low + units (low + 1)) * den
  if twice < middle then low
  else if middle < twice then low + 1
  else if low % 2 = 0 then low else low + 1

def ofRatio? (negative : Bool) (num den : Nat) : Option Binary64 :=
  if h : nearestRank num den < rankLimit then some ⟨negative, ⟨nearestRank num den, h⟩⟩ else none

def zero : Binary64 := ⟨false, ⟨0, by decide⟩⟩

def greatest : Binary64 := ⟨false, ⟨rankLimit - 1, by decide⟩⟩

def neg (x : Binary64) : Binary64 := { x with negative := !x.negative }

def isZero (x : Binary64) : Bool := x.rank.val == 0

def magnitude (x : Binary64) : Nat := units x.rank

def ofNat? (n : Nat) : Option Binary64 := ofRatio? false n 1

def mul? (x y : Binary64) : Option Binary64 :=
  ofRatio? (x.negative != y.negative) (x.magnitude * y.magnitude) (scale * scale)

def div? (x y : Binary64) : Option Binary64 :=
  if y.isZero then none
  else ofRatio? (x.negative != y.negative) x.magnitude y.magnitude

def truncate (x : Binary64) : Int :=
  if x.negative then -Int.ofNat (x.magnitude / scale) else Int.ofNat (x.magnitude / scale)

example : ofRatio? false 1 2 = some ⟨false, ⟨0x3fe0000000000000, by decide⟩⟩ := by decide +kernel
example : ofNat? 0x20000000000001 = ofNat? 0x20000000000000 := by decide +kernel

end Binary64

end ClusterConsole
