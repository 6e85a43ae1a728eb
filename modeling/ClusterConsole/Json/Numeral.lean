import ClusterConsole.Json.Fault
import ClusterConsole.Json.Value
import ClusterConsole.Text.AsciiCase

/-!
# Reading JSON numbers

Digits are gathered into a significand of 64 bits for as long as they fit; the digits after that
only count. A number without point and exponent that fits is an integer. Any other is a real: its
significand times or over a power of ten, both rounded to the nearest binary64 number before the one
operation, whose result is rounded again.
-/

namespace ClusterConsole.Json

def stopHere {α : Type} (cause : Cause) (cs : List Char) : Except Stop α :=
  .error ⟨cause, byteCount cs⟩

def stopAt {α : Type} (cause : Cause) (cs : List Char) : Except Stop α :=
  .error ⟨cause, byteCount cs - 1⟩

namespace Numeral

abbrev Taken := Except Stop (Number × List Char)

def startsWithDigit : List Char → Bool
  | c :: _ => c.isDigit
  | [] => false

def skipDigits (cs : List Char) : List Char := cs.dropWhile Char.isDigit

def gather (acc : Nat) (count : Nat) : List Char → Nat × Nat × List Char
  | [] => (acc, count, [])
  | c :: cs =>
    if c.isDigit && decide (acc * 10 + Text.digitValue c < 0x10000000000000000) then
      gather (acc * 10 + Text.digitValue c) (count + 1) cs
    else (acc, count, c :: cs)

def powerOfTen (k : Nat) : Binary64 := (Binary64.ofNat? (Nat.pow 10 k)).getD .greatest

/-- The significand times ten to `exponent`; none if that is too large. A quotient by more than
`10 ^ 308` is taken in two steps, and after two it is zero. -/
def real? (significand : Nat) (exponent : Int) : Option Binary64 :=
  let x := (Binary64.ofNat? significand).getD .greatest
  if 0 ≤ exponent then
    if significand = 0 then some x
    else if exponent ≤ 308 then x.mul? (powerOfTen exponent.toNat)
    else none
  else
    let k := (-exponent).toNat
    if k ≤ 308 then x.div? (powerOfTen k)
    else if k ≤ 616 then (x.div? (powerOfTen 308)).bind (·.div? (powerOfTen (k - 308)))
    else some .zero

def signed (negative : Bool) (x : Binary64) : Number := .real (if negative then x.neg else x)

def finish (negative : Bool) (significand : Nat) (exponent : Int) (cs : List Char) : Taken :=
  match real? significand exponent with
  | some x => .ok (signed negative x, cs)
  | none => stopHere .numberTooLarge cs

/-- The digits of an exponent up to the greatest integer of 32 bits; none when they go beyond, with
the characters from the first digit too many. -/
def gatherExponent (acc : Nat) : List Char → Option Nat × List Char
  | [] => (some acc, [])
  | c :: cs =>
    if c.isDigit then
      if acc * 10 + Text.digitValue c < 0x80000000 then
        gatherExponent (acc * 10 + Text.digitValue c) cs
      else (none, cs)
    else (some acc, c :: cs)

def exponentPart (negative : Bool) (significand : Nat) (start : Int) (cs : List Char) :
    Taken :=
  let down := cs.head? == some '-'
  let digits := if down || cs.head? == some '+' then cs.drop 1 else cs
  match digits with
  | [] => stopHere .endInValue []
  | c :: rest =>
    if !c.isDigit then stopAt .badNumber (c :: rest)
    else
      match gatherExponent (Text.digitValue c) rest with
      | (some e, after) =>
        finish negative significand (if down then start - e else start + e) after
      | (none, after) =>
        if significand ≠ 0 ∧ ¬down then stopHere .numberTooLarge after
        else .ok (signed negative .zero, skipDigits after)

def isExponentMark : List Char → Bool
  | c :: _ => c == 'e' || c == 'E'
  | [] => false

def scaled (negative : Bool) (significand : Nat) (exponent : Int) (cs : List Char) : Taken :=
  if isExponentMark cs then exponentPart negative significand exponent (cs.drop 1)
  else finish negative significand exponent cs

def fractionPart (negative : Bool) (significand before : Nat) (cs : List Char) : Taken :=
  match gather significand 0 cs with
  | (s, count, rest) =>
    let exponent : Int := before - count
    if startsWithDigit rest then scaled negative s exponent (skipDigits rest)
    else if count = 0 then
      match rest with
      | [] => stopHere .endInValue []
      | rest => stopAt .badNumber rest
    else scaled negative s exponent rest

def startsWithPoint : List Char → Bool
  | c :: _ => c == '.'
  | [] => false

/-- An integer whose digits all fit. Below `-2 ^ 63` and at `-0` it is a real. -/
def integer (negative : Bool) (significand : Nat) : Number :=
  if negative then
    if h : significand ≠ 0 ∧ significand - 1 < 0x8000000000000000 then
      .negative ⟨significand - 1, h.2⟩
    else .real ((Binary64.ofNat? significand).getD .greatest).neg
  else .natural significand.toUInt64

def afterInteger (negative : Bool) (significand : Nat) (cs : List Char) : Taken :=
  if startsWithPoint cs then fractionPart negative significand 0 (cs.drop 1)
  else if isExponentMark cs then exponentPart negative significand 0 (cs.drop 1)
  else .ok (integer negative significand, cs)

def afterLongInteger (negative : Bool) (significand : Nat) (cs : List Char) : Taken :=
  let rest := skipDigits cs
  let more := cs.length - rest.length
  if startsWithPoint rest then fractionPart negative significand more (rest.drop 1)
  else scaled negative significand more rest

def unsigned (negative : Bool) (cs : List Char) : Taken :=
  match cs with
  | [] => stopHere .endInValue []
  | '0' :: rest => if startsWithDigit rest then stopAt .badNumber rest else
    afterInteger negative 0 rest
  | c :: rest =>
    if !c.isDigit then stopAt .badNumber (c :: rest)
    else
      match gather (Text.digitValue c) 1 rest with
      | (s, _, after) =>
        if startsWithDigit after then afterLongInteger negative s after
        else afterInteger negative s after

end Numeral

end ClusterConsole.Json
