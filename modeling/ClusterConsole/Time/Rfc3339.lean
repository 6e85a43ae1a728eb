import ClusterConsole.Text.Blank
import ClusterConsole.Text.AsciiCase
import ClusterConsole.Time.Instant

/-!
# Instants as RFC 3339 text

An instant is written in UTC with a `Z` and as many digits of the second as it needs, none, three,
six or nine. Years outside 0000 to 9999 have a sign. Reading allows blanks between the parts, any
number of digits in a year with a sign, `t` or a space for `T`, and any offset below a day.
-/

namespace ClusterConsole.Time

inductive ReadFault where
  | outOfRange
  | impossible
  | tooShort
  | invalid
  | tooLong
  deriving DecidableEq, Repr

def ReadFault.message : ReadFault → String
  | .outOfRange => "input is out of range"
  | .impossible => "no possible date and time matching input"
  | .tooShort => "premature end of input"
  | .invalid => "input contains invalid characters"
  | .tooLong => "trailing input"

def padded (width n : Nat) : List Char :=
  let ds := (toString n).toList
  List.replicate (width - ds.length) '0' ++ ds

def yearChars (y : Int) : List Char :=
  if 0 ≤ y ∧ y ≤ 9999 then padded 4 y.toNat
  else (if y < 0 then '-' else '+') :: padded 4 y.natAbs

def fractionChars (nano : Nat) : List Char :=
  if nano = 0 then []
  else if nano % 1000000 = 0 then '.' :: padded 3 (nano / 1000000)
  else if nano % 1000 = 0 then '.' :: padded 6 (nano / 1000)
  else '.' :: padded 9 nano

namespace Instant

def chars (t : Instant) : List Char :=
  let d := Date.ofDays t.day
  let leap := if t.nano < 1000000000 then 0 else 1
  yearChars d.year ++ '-' :: padded 2 d.month ++ '-' :: padded 2 d.day ++
    'T' :: padded 2 (t.second / 3600) ++ ':' :: padded 2 (t.second / 60 % 60) ++
    ':' :: padded 2 (t.second % 60 + leap) ++ fractionChars (t.nano - leap * 1000000000) ++ ['Z']

def text (t : Instant) : String := String.ofList t.chars

end Instant

namespace Reader

abbrev Taken (α : Type) := Except ReadFault (α × List Char)

def digits (acc : Nat) : Option Nat → List Char → Nat × List Char
  | some 0, cs => (acc, cs)
  | _, [] => (acc, [])
  | width, c :: cs =>
    if c.isDigit then digits (acc * 10 + Text.digitValue c) (width.map (· - 1)) cs
    else (acc, c :: cs)

def number (width : Option Nat) (cs : List Char) : Except ReadFault (Nat × List Char) :=
  match cs with
  | [] => .error .tooShort
  | c :: _ =>
    if c.isDigit then
      let r := digits 0 width cs
      if r.1 < 0x8000000000000000 then .ok r else .error .outOfRange
    else .error .invalid

def year (cs : List Char) : Except ReadFault (Int × List Char) := do
  let r ← match cs with
    | '-' :: rest => (number none rest).map fun r => (-(r.1 : Int), r.2)
    | '+' :: rest => (number none rest).map fun r => ((r.1 : Int), r.2)
    | cs => (number (some 4) cs).map fun r => ((r.1 : Int), r.2)
  if -0x80000000 ≤ r.1 ∧ r.1 < 0x80000000 then .ok r else .error .outOfRange

def part (low high : Nat) (cs : List Char) : Except ReadFault (Nat × List Char) := do
  let r ← number (some 2) (Text.trimStart cs)
  if low ≤ r.1 ∧ r.1 ≤ high then .ok r else .error .outOfRange

def mark (c : Char) (cs : List Char) : Except ReadFault (List Char) :=
  match Text.trimStart cs with
  | [] => .error .tooShort
  | d :: rest => if d = c then .ok rest else .error .invalid

/-- The nanoseconds after a point; digits beyond the ninth are dropped. -/
def nanos (cs : List Char) : Except ReadFault (Nat × List Char) :=
  match cs with
  | '.' :: rest => do
    let r ← number (some 9) rest
    .ok (r.1 * Nat.pow 10 (9 - (rest.length - r.2.length)), r.2.dropWhile Char.isDigit)
  | cs => .ok (0, cs)

def twoDigits (tens : Char → Except ReadFault Unit) (cs : List Char) :
    Except ReadFault (Nat × List Char) :=
  match cs with
  | a :: b :: rest =>
    if a.isDigit && b.isDigit then do
      tens a
      .ok (Text.digitValue a * 10 + Text.digitValue b, rest)
    else .error .invalid
  | [a] => if a.utf8Size < 2 then .error .tooShort else .error .invalid
  | [] => .error .tooShort

def offset (cs : List Char) : Except ReadFault (Int × List Char) :=
  match cs with
  | [] => .error .tooShort
  | c :: rest =>
    if c = 'Z' || c = 'z' then .ok (0, rest)
    else if c = '+' || c = '-' || c = '\u2212' then do
      let (hours, rest) ← twoDigits (fun _ => .ok ()) rest
      let rest := rest.dropWhile fun c => c == ':' || Text.isBlank c
      let (minutes, rest) ←
        twoDigits (fun a => if a ≤ '5' then .ok () else .error .outOfRange) rest
      let seconds : Int := hours * 3600 + minutes * 60
      .ok (if c = '+' then seconds else -seconds, rest)
    else .error .invalid

def zone (cs : List Char) : Except ReadFault (Int × List Char) :=
  let rest := Text.trimStart cs
  if (rest.take 3).map Char.toLower = ['u', 't', 'c'] then .ok (0, rest.drop 3) else offset rest

def assemble (date : Date) (second nano : Nat) (east : Int) : Except ReadFault Instant :=
  if !date.isValid || date.toDays < firstDay || lastDay < date.toDays then .error .outOfRange
  else if east ≤ -86400 || 86400 ≤ east then .error .outOfRange
  else
    let utc := date.toDays * 86400 + second - east
    match Instant.of? (utc / 86400) (utc % 86400).toNat nano with
    | some t => .ok t
    | none => .error .impossible

def instant (cs : List Char) : Except ReadFault Instant := do
  let (y, cs) ← year (Text.trimStart cs)
  let cs ← mark '-' cs
  let (month, cs) ← part 1 12 cs
  let cs ← mark '-' cs
  let (day, cs) ← part 1 31 cs
  let cs ← match cs with
    | [] => .error .tooShort
    | c :: rest => if c = 'T' || c = 't' || c = ' ' then .ok rest else .error .invalid
  let (hour, cs) ← part 0 23 cs
  let cs ← mark ':' cs
  let (minute, cs) ← part 0 59 cs
  let cs ← mark ':' cs
  let (second, cs) ← part 0 60 cs
  let (nano, cs) ← nanos cs
  let (east, cs) ← zone cs
  if (Text.trimStart cs).isEmpty then
    let leap := second = 60
    assemble ⟨y, month, day⟩ (hour * 3600 + minute * 60 + (if leap then 59 else second))
      (nano + if leap then 1000000000 else 0) east
  else .error .tooLong

end Reader

def Instant.read (s : String) : Except ReadFault Instant := Reader.instant s.toList

example : ((Instant.ofMillis? (-1)).map Instant.chars) =
    some "1969-12-31T23:59:59.999Z".toList := by decide +kernel

end ClusterConsole.Time
