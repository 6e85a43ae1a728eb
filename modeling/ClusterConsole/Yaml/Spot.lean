/-!
# Places in a text

Layout gives a YAML text its structure, so every character comes with its line and its column. Line
breaks of any kind count as one newline.
-/

namespace ClusterConsole.Yaml

structure Spot where
  char : Char
  line : Nat
  column : Nat
  deriving DecidableEq, Repr

def isBreak (c : Char) : Bool :=
  c == '\n' || c == '\r' || c == '\u0085' || c == '\u2028' || c == '\u2029'

def isPrintable (c : Char) : Bool :=
  c == '\t' || c == '\n' || c == '\r' || c == '\u0085' || (0x20 ≤ c.toNat && c.toNat < 0x7F) ||
    (0xA0 ≤ c.toNat && c.toNat ≠ 0xFFFE && c.toNat ≠ 0xFFFF)

def placeFrom : Nat → Nat → List Char → List Spot
  | _, _, [] => []
  | line, column, '\r' :: '\n' :: cs => ⟨'\n', line, column⟩ :: placeFrom (line + 1) 0 cs
  | line, column, c :: cs =>
    if isBreak c then ⟨'\n', line, column⟩ :: placeFrom (line + 1) 0 cs
    else ⟨c, line, column⟩ :: placeFrom line (column + 1) cs

def place (cs : List Char) : List Spot := placeFrom 0 0 cs

namespace Spot

def isSpace (s : Spot) : Bool := s.char == ' ' || s.char == '\t'

def isGap (s : Spot) : Bool := s.isSpace || s.char == '\n'

end Spot

def atBlank : List Spot → Bool
  | [] => true
  | s :: _ => s.isGap

def isMarker (mark : Char) : List Spot → Bool
  | a :: b :: c :: rest =>
    a.column == 0 && a.char == mark && b.char == mark && c.char == mark && atBlank rest
  | _ => false

def atMarker (s : List Spot) : Bool := isMarker '-' s || isMarker '.' s

/-- The next content, past blanks and comments. `tabs` says whether tabs are blanks on this line,
`flow` whether they are on the lines after it. -/
def contentFrom (flow : Bool) : (tabs inComment : Bool) → List Spot → List Spot
  | _, _, [] => []
  | tabs, inComment, s :: rest =>
    if s.char == '\n' then contentFrom flow flow false rest
    else if inComment || s.char == '#' then contentFrom flow tabs true rest
    else if s.char == ' ' || (tabs && s.char == '\t') then contentFrom flow tabs false rest
    else s :: rest

def flowContent (s : List Spot) : List Spot := contentFrom true true false s

def nextContent (s : List Spot) : List Spot := contentFrom false true false s

def indentedContent (s : List Spot) : List Spot := contentFrom false false false s

end ClusterConsole.Yaml
