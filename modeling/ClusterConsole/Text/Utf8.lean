/-!
# UTF-8

`utf8Lossy` reads bytes as text and puts one replacement character for every longest part that could
begin a character but does not complete one, and for every byte that begins none.
-/

namespace ClusterConsole.Text

def replacement : Char := '\ufffd'

/-- A character begun: how many bytes it lacks, its bits so far, and the range of the next byte. -/
structure Begun where
  lacking : Nat
  bits : Nat
  low : UInt8
  high : UInt8

def begin? (b : UInt8) : Option (Char ⊕ Begun) :=
  let n := b.toNat
  if n < 0x80 then some (.inl (Char.ofNat n))
  else if n < 0xC2 then none
  else if n ≤ 0xDF then some (.inr ⟨1, n % 32, 0x80, 0xBF⟩)
  else if n = 0xE0 then some (.inr ⟨2, n % 16, 0xA0, 0xBF⟩)
  else if n = 0xED then some (.inr ⟨2, n % 16, 0x80, 0x9F⟩)
  else if n ≤ 0xEF then some (.inr ⟨2, n % 16, 0x80, 0xBF⟩)
  else if n = 0xF0 then some (.inr ⟨3, n % 8, 0x90, 0xBF⟩)
  else if n ≤ 0xF3 then some (.inr ⟨3, n % 8, 0x80, 0xBF⟩)
  else if n = 0xF4 then some (.inr ⟨3, n % 8, 0x80, 0x8F⟩)
  else none

def lossyFrom : Option Begun → List UInt8 → List Char
  | none, [] => []
  | some _, [] => [replacement]
  | some p, b :: bs =>
    if p.low ≤ b && b ≤ p.high then
      let bits := p.bits * 64 + b.toNat % 64
      if p.lacking = 1 then Char.ofNat bits :: lossyFrom none bs
      else lossyFrom (some ⟨p.lacking - 1, bits, 0x80, 0xBF⟩) bs
    else
      replacement :: match begin? b with
        | some (.inl c) => c :: lossyFrom none bs
        | some (.inr q) => lossyFrom (some q) bs
        | none => replacement :: lossyFrom none bs
  | none, b :: bs =>
    match begin? b with
    | some (.inl c) => c :: lossyFrom none bs
    | some (.inr q) => lossyFrom (some q) bs
    | none => replacement :: lossyFrom none bs

def utf8Lossy (bs : List UInt8) : List Char := lossyFrom none bs

def utf8Bytes (cs : List Char) : List UInt8 := cs.flatMap String.utf8EncodeChar

def utf8? (bs : List UInt8) : Option (List Char) :=
  let cs := utf8Lossy bs
  if utf8Bytes cs = bs then some cs else none

example : utf8Lossy [0x61, 0xFF, 0x62, 0xC3, 0x28, 0xE9] =
    ['a', '\ufffd', 'b', '\ufffd', '(', '\ufffd'] := by decide

end ClusterConsole.Text
