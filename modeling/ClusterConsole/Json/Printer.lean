import ClusterConsole.Json.Value
import ClusterConsole.Number.Shortest
import ClusterConsole.Text.AsciiCase

/-!
# JSON text

`text` writes a value without blanks, `pretty` with two columns per level and empty brackets closed
at once. In strings only the quote, the backslash and characters below the space are escaped.
-/

namespace ClusterConsole.Json

/-- Reals are written without an exponent from `0.00001` to below `10000000000000000.0`. -/
def realLayout : Decimal.Layout := ⟨-5, 15⟩

def escapeChar (c : Char) : List Char :=
  match c with
  | '"' => ['\\', '"']
  | '\\' => ['\\', '\\']
  | '\x08' => ['\\', 'b']
  | '\x0c' => ['\\', 'f']
  | '\n' => ['\\', 'n']
  | '\r' => ['\\', 'r']
  | '\t' => ['\\', 't']
  | c =>
    if c.toNat < 0x20 then
      ['\\', 'u', '0', '0', Text.hexDigit false (c.toNat / 16), Text.hexDigit false (c.toNat % 16)]
    else [c]

def quote (s : String) : List Char := '"' :: s.toList.flatMap escapeChar ++ ['"']

def Number.chars : Number → List Char
  | .natural n => (toString n.toNat).toList
  | .negative n => '-' :: (toString (n.val + 1)).toList
  | .real x => x.render realLayout

def Number.text (n : Number) : String := String.ofList n.chars

mutual

def Value.chars : Value → List Char
  | .null => ['n', 'u', 'l', 'l']
  | .bool true => ['t', 'r', 'u', 'e']
  | .bool false => ['f', 'a', 'l', 's', 'e']
  | .number n => n.chars
  | .string s => quote s
  | .array [] => ['[', ']']
  | .array (v :: vs) => '[' :: v.chars ++ itemChars vs
  | .object [] => ['{', '}']
  | .object ((name, v) :: fs) => '{' :: quote name ++ ':' :: v.chars ++ fieldChars fs

def itemChars : List Value → List Char
  | [] => [']']
  | v :: vs => ',' :: v.chars ++ itemChars vs

def fieldChars : List (String × Value) → List Char
  | [] => ['}']
  | (name, v) :: fs => ',' :: quote name ++ ':' :: v.chars ++ fieldChars fs

end

def Value.text (v : Value) : String := String.ofList v.chars

def newLine (level : Nat) : List Char := '\n' :: List.replicate (2 * level) ' '

mutual

def Value.prettyChars (level : Nat) : Value → List Char
  | .array (v :: vs) =>
    '[' :: newLine (level + 1) ++ v.prettyChars (level + 1) ++ prettyItems level vs
  | .object ((name, v) :: fs) =>
    '{' :: newLine (level + 1) ++ quote name ++ ':' :: ' ' :: v.prettyChars (level + 1) ++
      prettyFields level fs
  | v => v.chars

def prettyItems (level : Nat) : List Value → List Char
  | [] => newLine level ++ [']']
  | v :: vs => ',' :: newLine (level + 1) ++ v.prettyChars (level + 1) ++ prettyItems level vs

def prettyFields (level : Nat) : List (String × Value) → List Char
  | [] => newLine level ++ ['}']
  | (name, v) :: fs =>
    ',' :: newLine (level + 1) ++ quote name ++ ':' :: ' ' :: v.prettyChars (level + 1) ++
      prettyFields level fs

end

def Value.pretty (v : Value) : String := String.ofList (v.prettyChars 0)

end ClusterConsole.Json
