import ClusterConsole.Number.Binary64

/-!
# The fewest digits that read back

Every magnitude stands for the interval of reals that round to it, ends included when its rank is
even. `shortest` looks at the two neighbours of the magnitude among the decimals of one digit, of
two, and so on, and takes the first that lie in the interval: of two the nearer one, of two equally
near the even one.
-/

namespace ClusterConsole

/-- The decimal `digits × 10 ^ (exponent + 1 - length)`: `exponent` belongs to the first digit. -/
structure Decimal where
  digits : List Char
  exponent : Int
  deriving DecidableEq, Repr

namespace Decimal

/-- Where a number is written without an exponent: by the exponent of its first digit. -/
structure Layout where
  least : Int
  greatest : Int

def zeros (n : Nat) : List Char := List.replicate n '0'

def fraction (ds : List Char) : List Char := '.' :: (if ds.isEmpty then ['0'] else ds)

/-- A part after the point is left out when an exponent follows. -/
def render (layout : Layout) (d : Decimal) : List Char :=
  if 0 ≤ d.exponent ∧ d.exponent ≤ layout.greatest then
    let n := d.exponent.toNat + 1
    d.digits.take n ++ zeros (n - d.digits.length) ++ fraction (d.digits.drop n)
  else if d.exponent < 0 ∧ layout.least ≤ d.exponent then
    '0' :: '.' :: zeros (-d.exponent - 1).toNat ++ d.digits
  else
    let rest := d.digits.drop 1
    d.digits.take 1 ++ (if rest.isEmpty then [] else '.' :: rest) ++
      'e' :: (if d.exponent < 0 then '-' else '+') :: (toString d.exponent.natAbs).toList

end Decimal

namespace Binary64

def readsBack (r a b : Nat) : Bool :=
  let low := (units (r - 1) + units r) * b
  let high := (units r + units (r + 1)) * b
  let x := 2 * a * scale
  if r % 2 = 0 then low ≤ x && x ≤ high else low < x && x < high

def tenTo (p : Int) : Nat × Nat :=
  if 0 ≤ p then (Nat.pow 10 p.toNat, 1) else (1, Nat.pow 10 (-p).toNat)

/-- The neighbour of rank `r` on the grid of multiples of `10 ^ p` that reads back, the nearer of
two. -/
def onGrid (r : Nat) (p : Int) : Option Nat :=
  let (num, den) := tenTo p
  let below := units r * den / (scale * num)
  let hit := fun a => readsBack r (a * num) den
  let twice := 2 * (units r * den)
  let middle := (2 * below + 1) * (scale * num)
  match hit below, hit (below + 1) with
  | true, true =>
    if twice < middle then some below
    else if middle < twice then some (below + 1)
    else if below % 2 = 0 then some below else some (below + 1)
  | true, false => some below
  | false, true => some (below + 1)
  | false, false => none

def leadingExponent (r : Nat) : Int :=
  if scale ≤ units r then (toString (units r / scale)).length - 1
  else
    Int.negOfNat (((List.range 325).find? fun k => scale ≤ units r * Nat.pow 10 k).getD 325)

def decimalOf (a : Nat) (p : Int) : Decimal :=
  let ds := (toString a).toList
  let kept := (ds.reverse.dropWhile (· == '0')).reverse
  ⟨kept, p + (ds.length : Int) - 1⟩

def shortest (r : Nat) : Decimal :=
  let e := leadingExponent r
  let found := (List.range 18).findSome? fun (n : Nat) =>
    (onGrid r (e - n)).map fun a => decimalOf a (e - n)
  found.getD ⟨['0'], 0⟩

def render (layout : Decimal.Layout) (x : Binary64) : List Char :=
  (if x.negative then ['-'] else []) ++
    (if x.isZero then ['0', '.', '0'] else (shortest x.rank).render layout)

end Binary64

end ClusterConsole
