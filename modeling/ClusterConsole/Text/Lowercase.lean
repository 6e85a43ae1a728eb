import ClusterConsole.Text.Blank
import ClusterConsole.Text.CaseTable

/-!
# Lowercase text

Each character is mapped by itself, but for the capital sigma: it becomes a final one at the end of
a word, that is after a character with case and not before one, where ignorable characters between
do not count. The dotted capital I becomes two characters.
-/

namespace ClusterConsole.Text

def capitalSigma : Char := '\u03a3'

def mapCodePoint (n : Nat) : Option Nat :=
  (lowercaseRuns.find? fun r => r.first ≤ n && n ≤ r.last && (n - r.first) % r.step == 0).map
    fun r => (Int.ofNat n + r.offset).toNat

def lowerChar (c : Char) : List Char :=
  if c = '\u0130' then ['i', '\u0307']
  else match mapCodePoint c.toNat with
    | some n => [Char.ofNat n]
    | none => [c]

def meetsCased (cs : List Char) : Bool :=
  match cs.dropWhile fun c => inRanges caseIgnorableRanges c.toNat with
  | c :: _ => inRanges casedRanges c.toNat
  | [] => false

def lowerFrom (before : List Char) : List Char → List Char
  | [] => []
  | c :: cs =>
    (if c = capitalSigma then
      [if meetsCased before && !meetsCased cs then '\u03c2' else '\u03c3']
    else lowerChar c) ++ lowerFrom (c :: before) cs

def lowercaseChars (cs : List Char) : List Char := lowerFrom [] cs

example : lowercaseChars ['Α', 'Σ', ' ', 'Σ', 'Α'] = ['α', 'ς', ' ', 'σ', 'α'] := by
  decide +kernel

end ClusterConsole.Text
