import ClusterConsole.Text.AsciiCase
import ClusterConsole.Text.Utf8

/-!
# Percent-encoding

A set of ASCII characters is encoded byte by byte, and so is every character outside ASCII.
-/

namespace ClusterConsole.Url

def isControl (c : Char) : Bool := c.toNat < 0x20 || c.toNat == 0x7F

abbrev EncodeSet := List Char

def querySet : EncodeSet := [' ', '"', '#', '<', '>']

def specialQuerySet : EncodeSet := '\'' :: querySet

def fragmentSet : EncodeSet := [' ', '"', '<', '>', '\x60']

def pathSet : EncodeSet := fragmentSet ++ ['#', '?', '\x7b', '\x7d']

def segmentSet : EncodeSet := pathSet ++ ['/', '%']

def specialSegmentSet : EncodeSet := segmentSet ++ ['\\']

def userSet : EncodeSet := pathSet ++ ['/', ':', ';', '=', '@', '[', '\\', ']', '^', '|']

def byteCode (b : UInt8) : List Char :=
  ['%', Text.hexDigit true (b.toNat / 16), Text.hexDigit true (b.toNat % 16)]

def encodeChar (set : EncodeSet) (c : Char) : List Char :=
  if isControl c || 0x80 ≤ c.toNat || set.contains c then
    (String.utf8EncodeChar c).flatMap byteCode
  else [c]

def encode (set : EncodeSet) (cs : List Char) : List Char := cs.flatMap (encodeChar set)

/-- The bytes that percent codes stand for; a percent sign without two digits stands for itself. -/
def decodeBytes : List Char → List UInt8
  | '%' :: a :: b :: cs =>
    if Text.isHexDigit a && Text.isHexDigit b then
      (16 * Text.hexValue a + Text.hexValue b).toUInt8 :: decodeBytes cs
    else 0x25 :: decodeBytes (a :: b :: cs)
  | c :: cs => String.utf8EncodeChar c ++ decodeBytes cs
  | [] => []

def decode? (cs : List Char) : Option (List Char) := Text.utf8? (decodeBytes cs)

end ClusterConsole.Url
