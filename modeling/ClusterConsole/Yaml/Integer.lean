import ClusterConsole.Text.Integer

/-! Natural numbers as a plain scalar writes them: in decimal without a leading zero, or in the base
that `0x`, `0o` or `0b` names, with a plus sign or none. -/

namespace ClusterConsole.Yaml

def digits? (base : Nat) (cs : List Char) : Option Nat :=
  if cs ≠ [] ∧ cs.all fun c => Text.isHexDigit c && Text.hexValue c < base then
    some (cs.foldl (fun n c => base * n + Text.hexValue c) 0)
  else none

def unsigned? : List Char → Option Nat
  | '0' :: 'x' :: cs => digits? 16 cs
  | '0' :: 'o' :: cs => digits? 8 cs
  | '0' :: 'b' :: cs => digits? 2 cs
  | ['0'] => some 0
  | '0' :: _ => none
  | cs => Text.natural? cs

def natural? : List Char → Option Nat
  | '+' :: cs => unsigned? cs
  | cs => unsigned? cs

example : natural? "+0x1F".toList = some 31 := by decide
example : natural? "007".toList = none := by decide

end ClusterConsole.Yaml
