import ClusterConsole.Text.AsciiCase
import ClusterConsole.Yaml.Spot

/-!
# Scalars

A scalar may go on over several lines. A single line break in it is read as a space, and of several
all but the first are kept.
-/

namespace ClusterConsole.Yaml

structure Found where
  chars : List Char
  line : Nat
  rest : List Spot

def Found.after (cs : List Char) (f : Found) : Found := { f with chars := cs ++ f.chars }

def folded (gap : List Spot) : List Char :=
  match gap.countP (·.char == '\n') with
  | 0 => gap.map (·.char)
  | 1 => [' ']
  | n + 2 => List.replicate (n + 1) '\n'

def splitGap (s : List Spot) : Option (List Spot × List Spot) :=
  let rest := s.dropWhile Spot.isGap
  if atMarker rest then none else some (s.takeWhile Spot.isGap, rest)

/-- A text in single quotes, where a quote is written twice. Every step takes a character, so fuel
as long as the text is enough. -/
def singleQuoted : Nat → List Spot → Option Found
  | 0, _ => none
  | _ + 1, [] => none
  | fuel + 1, s :: rest =>
    if s.char = '\'' then
      match rest with
      | q :: more =>
        if q.char = '\'' then (singleQuoted fuel more).map (·.after ['\''])
        else some ⟨[], s.line, rest⟩
      | [] => some ⟨[], s.line, []⟩
    else if s.isGap then do
      let (gap, more) ← splitGap (s :: rest)
      let f ← singleQuoted fuel more
      return f.after (folded gap)
    else (singleQuoted fuel rest).map (·.after [s.char])

def letterEscapes : List (Char × Char) :=
  [('0', '\x00'), ('a', '\x07'), ('b', '\x08'), ('t', '\t'), ('\t', '\t'), ('n', '\n'),
    ('v', '\x0b'), ('f', '\x0c'), ('r', '\r'), ('e', '\x1b'), (' ', ' '), ('"', '"'), ('/', '/'),
    ('\\', '\\'), ('N', '\u0085'), ('_', '\u00a0'), ('L', '\u2028'), ('P', '\u2029')]

def codeEscapes : List (Char × Nat) := [('x', 2), ('u', 4), ('U', 8)]

def codeChar? (digits : Nat) (s : List Spot) : Option Char :=
  let ds := (s.take digits).map (·.char)
  let n := ds.foldl (fun n c => 16 * n + Text.hexValue c) 0
  if ds.length = digits ∧ ds.all Text.isHexDigit ∧ n.isValidChar then some (Char.ofNat n) else none

/-- The text of what follows a backslash. A line break after one is left out with the blanks that
begin the next line. -/
def escaped? : List Spot → Option (List Char × List Spot)
  | [] => none
  | s :: rest =>
    if s.char = '\n' then do
      let (gap, more) ← splitGap rest
      return (List.replicate (gap.countP (·.char == '\n')) '\n', more)
    else
      match letterEscapes.lookup s.char, codeEscapes.lookup s.char with
      | some c, _ => some ([c], rest)
      | none, some digits => (codeChar? digits rest).map fun c => ([c], rest.drop digits)
      | none, none => none

def doubleQuoted : Nat → List Spot → Option Found
  | 0, _ => none
  | _ + 1, [] => none
  | fuel + 1, s :: rest =>
    if s.char = '"' then some ⟨[], s.line, rest⟩
    else if s.char = '\\' then do
      let (cs, more) ← escaped? rest
      let f ← doubleQuoted fuel more
      return f.after cs
    else if s.isGap then do
      let (gap, more) ← splitGap (s :: rest)
      let f ← doubleQuoted fuel more
      return f.after (folded gap)
    else (doubleQuoted fuel rest).map (·.after [s.char])

def isBracket (c : Char) : Bool := ",[]\x7b\x7d".toList.contains c

def startsPlain (flow : Bool) : List Spot → Bool
  | [] => false
  | s :: rest =>
    if s.char = '-' then !atBlank rest
    else if s.char = '?' ∨ s.char = ':' then !flow && !atBlank rest
    else !s.isGap && !isBracket s.char && !"#&*!|>'\"%@\x60".toList.contains s.char

/-- A word without quotes: up to a blank, a colon before a blank or, between brackets, a mark of
theirs. A colon must not touch such a mark. -/
def plainWord (flow : Bool) : List Spot → Option (List Spot × List Spot)
  | [] => some ([], [])
  | s :: rest =>
    if s.isGap || (s.char == ':' && atBlank rest) || (flow && isBracket s.char) then
      some ([], s :: rest)
    else if flow && s.char == ':' &&
        rest.head?.any (fun n => isBracket n.char || n.char == '?') then none
    else (plainWord flow rest).map fun w => (s :: w.1, w.2)

def hasTabIndent (lowest : Nat) (gap : List Spot) : Bool :=
  (gap.dropWhile (·.char != '\n')).any fun s => s.char == '\t' && s.column < lowest

def continues (flow : Bool) (lowest : Nat) (gap : List Spot) : List Spot → Bool
  | [] => false
  | s :: rest =>
    s.char != '#' && !atMarker (s :: rest) &&
      (flow || gap.all (·.char != '\n') || lowest ≤ s.column)

def plain (flow : Bool) (lowest : Nat) : Nat → List Spot → Option Found
  | 0, _ => none
  | fuel + 1, s => do
    let (word, rest) ← plainWord flow s
    let line := (word.getLast?.map (·.line)).getD 0
    let stop : Found := ⟨word.map (·.char), line, rest⟩
    let gap := rest.takeWhile Spot.isGap
    let more := rest.dropWhile Spot.isGap
    if hasTabIndent lowest gap then none
    else if gap.isEmpty || !continues flow lowest gap more then return stop
    else
      let f ← plain flow lowest fuel more
      if f.chars.isEmpty then return stop
      else return f.after (stop.chars ++ folded gap)

end ClusterConsole.Yaml
