import ClusterConsole.Objects.Record

/-!
# Pages

The records of the last applied fetch and the window of them that is shown. Counts and indices are
words of 64 bits; the start of the window saturates instead of wrapping.
-/

namespace ClusterConsole

structure Page where
  records : List Record
  total : UInt64
  pageIndex : UInt64
  pageSize : UInt64

namespace Page

def defaultSize : UInt64 := 10

def empty : Page := ⟨[], 0, 1, defaultSize⟩

def ofRecords (records : List Record) : Page :=
  { empty with records, total := records.length.toUInt64 }

def saturatingMul (a b : UInt64) : UInt64 :=
  if a.toNat * b.toNat < 0x10000000000000000 then a * b else 0xFFFFFFFFFFFFFFFF

def divUp (a b : UInt64) : UInt64 := if a % b = 0 then a / b else a / b + 1

def pageCount (p : Page) : UInt64 :=
  if p.pageSize = 0 then 1 else max (divUp p.total p.pageSize) 1

def visible (p : Page) : List Record :=
  let size := max p.pageSize 1
  let start := saturatingMul (max p.pageIndex 1 - 1) size
  if p.records.length ≤ start.toNat then []
  else (p.records.drop start.toNat).take (min (start + size).toNat p.records.length - start.toNat)

def wordJson (n : UInt64) : Json.Value := .number (.natural n)

def toJson (p : Page) : Json.Value :=
  .object [("records", .array (p.records.map Record.toJson)), ("total", wordJson p.total),
    ("pageIndex", wordJson p.pageIndex), ("pageSize", wordJson p.pageSize)]

def wordDecoder : Json.Decoder UInt64 := fun v =>
  (Json.Decoder.natural 0x10000000000000000 "usize" v).map Nat.toUInt64

open Json.Decoder (Member listOf)

def recordsField : Member (List Record) := ⟨0, "records", listOf Record.decoder, none⟩
def totalField : Member UInt64 := ⟨1, "total", wordDecoder, none⟩
def indexField : Member UInt64 := ⟨2, "pageIndex", wordDecoder, none⟩
def sizeField : Member UInt64 := ⟨3, "pageSize", wordDecoder, none⟩

def form : Json.Decoder.Form := ⟨"struct ObjectPage", 4⟩

def ofParts (parts : Json.Decoder.Parts) : Except Json.Mismatch Page := do
  let records ← recordsField.take form parts
  let total ← totalField.take form parts
  let index ← indexField.take form parts
  let size ← sizeField.take form parts
  return ⟨records, total, index, size⟩

def decoder : Json.Decoder Page :=
  Json.Decoder.build form
    [recordsField.check, totalField.check, indexField.check, sizeField.check] ofParts

end Page

end ClusterConsole
