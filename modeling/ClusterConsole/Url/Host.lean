import ClusterConsole.Url.Percent

/-!
# Hosts

The host of a special URL is a name, an IPv4 address when its last label is a number, or an IPv6
address in brackets; any other URL takes its host as it is written. Names outside ASCII are refused.
-/

namespace ClusterConsole.Url

inductive Fault where
  | relative
  | emptyHost
  | badPort
  | badIpv4
  | badIpv6
  | badName
  | badHostCharacter
  deriving DecidableEq, Repr

def Fault.message : Fault → String
  | .relative => "relative URL without a base"
  | .emptyHost => "empty host"
  | .badPort => "invalid port number"
  | .badIpv4 => "invalid IPv4 address"
  | .badIpv6 => "invalid IPv6 address"
  | .badName => "invalid international domain name"
  | .badHostCharacter => "invalid domain character"

inductive Host where
  | name (chars : List Char)
  | ipv4 (address : Nat)
  | ipv6 (pieces : List Nat)
  deriving DecidableEq, Repr

def splitAt (sep : Char) : List Char → List (List Char)
  | [] => [[]]
  | c :: cs =>
    if c = sep then [] :: splitAt sep cs
    else match splitAt sep cs with
      | part :: parts => (c :: part) :: parts
      | [] => [[c]]

namespace Ipv4

def digitsIn (radix : Nat) (cs : List Char) : Bool :=
  cs.all fun c => Text.isHexDigit c && Text.hexValue c < radix

def valueIn (radix : Nat) (cs : List Char) : Nat :=
  cs.foldl (fun n c => radix * n + Text.hexValue c) 0

/-- A number after its mark, hexadecimal, octal or decimal; a mark alone is zero. -/
def number? (cs : List Char) : Option Nat :=
  let read := fun (radix : Nat) (ds : List Char) =>
    if digitsIn radix ds then some (valueIn radix ds) else none
  match cs with
  | [] => none
  | '0' :: 'x' :: ds => read 16 ds
  | '0' :: 'X' :: ds => read 16 ds
  | '0' :: d :: ds => read 8 (d :: ds)
  | ds => read 10 ds

def endsInNumber (domain : List Char) : Bool :=
  let labels := (splitAt '.' domain).reverse
  let last := match labels with
    | [] :: label :: _ => label
    | label :: _ => label
    | [] => []
  (last ≠ [] && last.all Char.isDigit) || (number? last).isSome

/-- The last of the numbers fills the bytes that the others leave. -/
def parse (domain : List Char) : Except Fault Nat :=
  let labels := splitAt '.' domain
  let labels := if labels.getLast? = some [] then labels.dropLast else labels
  if 4 < labels.length then .error .badIpv4
  else match labels.mapM number? with
    | none => .error .badIpv4
    | some numbers =>
      match numbers.reverse with
      | [] => .error .badIpv4
      | last :: front =>
        if Nat.pow 256 (4 - front.length) ≤ last ∨ front.any (255 < ·) then .error .badIpv4
        else
          .ok (front.reverse.zipIdx.foldl (fun a e => a + e.1 * Nat.pow 256 (3 - e.2)) last)

def chars (address : Nat) : List Char :=
  let byte := fun k => (toString (address / Nat.pow 256 k % 256)).toList
  byte 3 ++ '.' :: byte 2 ++ '.' :: byte 1 ++ '.' :: byte 0

end Ipv4

namespace Ipv6

def hexOf (cs : List Char) : Nat := Ipv4.valueIn 16 cs

def byte? (cs : List Char) : Option Nat :=
  match cs with
  | [] => none
  | ['0'] => some 0
  | '0' :: _ => none
  | cs =>
    if cs.all Char.isDigit && cs.length ≤ 3 && Ipv4.valueIn 10 cs ≤ 255 then
      some (Ipv4.valueIn 10 cs)
    else none

def dotted? (cs : List Char) : Option (List Nat) :=
  match (splitAt '.' cs).mapM byte? with
  | some [a, b, c, d] => some [256 * a + b, 256 * c + d]
  | _ => none

def pieces? : List (List Char) → Option (List Nat)
  | [] => some []
  | part :: parts =>
    if part ≠ [] && part.length ≤ 4 && part.all Text.isHexDigit then
      (pieces? parts).map (hexOf part :: ·)
    else if parts.isEmpty then dotted? part
    else none

def run? (cs : List Char) : Option (List Nat) :=
  if cs.isEmpty then some [] else pieces? (splitAt ':' cs)

def splitGap : List Char → Option (List Char × List Char)
  | ':' :: ':' :: cs => some ([], cs)
  | c :: cs => (splitGap cs).map fun r => (c :: r.1, r.2)
  | [] => none

/-- Two colons in a row stand for one zero piece or more. -/
def parse (cs : List Char) : Except Fault (List Nat) :=
  let pieces := match splitGap cs with
    | none => (run? cs).filter fun ps => ps.length = 8
    | some (front, back) =>
      match run? front, run? back with
      | some a, some b =>
        if a.length + b.length ≤ 7 && !front.contains '.' then
          some (a ++ List.replicate (8 - a.length - b.length) 0 ++ b)
        else none
      | _, _ => none
  match pieces with
  | some ps => .ok ps
  | none => .error .badIpv6

def longestZeros (ps : List Nat) : Option (Nat × Nat) :=
  let runs := (List.range ps.length).map fun i => (i, ((ps.drop i).takeWhile (· == 0)).length)
  let best := runs.foldl (fun b r => if b.2 < r.2 then r else b) (0, 0)
  if 2 ≤ best.2 then some best else none

def joined (ps : List Nat) : List Char :=
  (String.ofList [':']).intercalate (ps.map fun p => String.ofList (Nat.toDigits 16 p)) |>.toList

def chars (ps : List Nat) : List Char :=
  match longestZeros ps with
  | none => joined ps
  | some (start, length) =>
    joined (ps.take start) ++ ':' :: ':' :: joined (ps.drop (start + length))

end Ipv6

namespace Host

def deniedInName : List Char :=
  ['%', '#', '/', ':', '<', '>', '?', '@', '[', '\\', ']', '^', '|']

def deniedInPlain : List Char :=
  ['\x00', '\t', '\n', '\r', ' ', '#', '/', ':', '<', '>', '?', '@', '[', '\\', ']', '^', '|']

def bracketed (cs : List Char) : Except Fault Host :=
  if cs.getLast? = some ']' then (Ipv6.parse (cs.drop 1).dropLast).map .ipv6
  else .error .badIpv6

/-- Names are taken in ASCII: one with other letters is refused and not mapped to its ASCII form,
and a label that is in such a form already is kept as it is, whether it stands for a name or not. -/
def parse (cs : List Char) : Except Fault Host :=
  if cs.head? = some '[' then bracketed cs
  else match decode? cs with
    | none => .error .badName
    | some decoded =>
      if decoded.any fun c => isControl c || c == ' ' || 0x80 ≤ c.toNat || deniedInName.contains c
      then .error .badName
      else
        let domain := decoded.map Char.toLower
        if domain.isEmpty then .error .emptyHost
        else if Ipv4.endsInNumber domain then (Ipv4.parse domain).map .ipv4
        else .ok (.name domain)

def parsePlain (cs : List Char) : Except Fault Host :=
  if cs.head? = some '[' then bracketed cs
  else if cs.any deniedInPlain.contains then .error .badHostCharacter
  else .ok (.name (encode [] cs))

def chars : Host → List Char
  | .name cs => cs
  | .ipv4 a => Ipv4.chars a
  | .ipv6 ps => '[' :: Ipv6.chars ps ++ [']']

def isEmpty : Host → Bool
  | .name cs => cs.isEmpty
  | _ => false

end Host

end ClusterConsole.Url
