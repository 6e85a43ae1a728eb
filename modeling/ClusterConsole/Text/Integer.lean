import ClusterConsole.Text.AsciiCase

/-! Decimal integers as text: a sign or none, and one digit or more. -/

namespace ClusterConsole.Text

def digitsValue (ds : List Char) : Nat := ds.foldl (fun n c => 10 * n + digitValue c) 0

def natural? (cs : List Char) : Option Nat :=
  if cs ≠ [] ∧ cs.all Char.isDigit then some (digitsValue cs) else none

def signedInteger? : List Char → Option Int
  | '-' :: ds => (natural? ds).map fun n : Nat => -(n : Int)
  | '+' :: ds => (natural? ds).map fun n : Nat => (n : Int)
  | ds => (natural? ds).map fun n : Nat => (n : Int)

def int64? (cs : List Char) : Option Int :=
  (signedInteger? cs).filter fun n => -0x8000000000000000 ≤ n && n < 0x8000000000000000

def word? (limit : Nat) : List Char → Option Nat
  | '+' :: ds => (natural? ds).filter (· < limit)
  | ds => (natural? ds).filter (· < limit)

end ClusterConsole.Text
