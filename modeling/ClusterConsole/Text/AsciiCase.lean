/-!
# Letters without case, ASCII only

Scheme, operator, logic and header names compare by these. A letter outside ASCII is left as it is.
-/

namespace ClusterConsole.Text

def lowerAscii (s : String) : String := String.ofList (s.toList.map Char.toLower)

def sameIgnoringCase (s t : String) : Bool := lowerAscii s == lowerAscii t

def isHexDigit (c : Char) : Bool :=
  c.isDigit || ('a' ≤ c && c ≤ 'f') || ('A' ≤ c && c ≤ 'F')

def hexValue (c : Char) : Nat :=
  if c.isDigit then c.toNat - '0'.toNat
  else if 'a' ≤ c && c ≤ 'f' then c.toNat - 'a'.toNat + 10
  else c.toNat - 'A'.toNat + 10

def digitValue (c : Char) : Nat := c.toNat - '0'.toNat

def hexDigit (upper : Bool) (n : Nat) : Char :=
  if n < 10 then Char.ofNat ('0'.toNat + n)
  else Char.ofNat ((if upper then 'A' else 'a').toNat + (n - 10))

example : lowerAscii "X-É" = "x-É" := by decide
example : (List.range 16).map (hexValue ∘ hexDigit true) = List.range 16 := by decide

end ClusterConsole.Text
