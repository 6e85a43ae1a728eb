import ClusterConsole.Objects.Record
import ClusterConsole.Text.Integer

/-!
# Payloads

A backend answers with its objects in one of three shapes. The shapes are tried in order, the first
that holds a list with items is used alone, and each of its items that is an object becomes a
record. Metadata stand in `_additional`, or else beside the properties.
-/

namespace ClusterConsole

inductive Shape where
  /-- `data.objects`, formatted by the backend. -/
  | formatted
  /-- `data.result.objects`, a listing as the cluster gave it. -/
  | rest
  /-- `data.data.Get.<Class>` or `data.Get.<Class>`, the answer to a graph query. -/
  | graph
  deriving DecidableEq, Repr

def Shape.order : List Shape := [.formatted, .rest, .graph]

structure Payload where
  shape : Option Shape
  records : List Record
  /-- All items of the list, also those that are not objects. -/
  itemCount : Nat

namespace Record

open Json (Value)

/-- The object's metadata of a name: the one in `_additional` unless null or absent. -/
def metadata (fields : Json.Fields) (name : String) : Option Value :=
  match ((Json.Fields.get? "_additional" fields).bind (·.field? name)).filter (!·.isNull) with
  | some v => some v
  | none => Json.Fields.get? name fields

def idText? : Value → Option String
  | .string s => if s = "" then none else some s
  | .number n => some n.text
  | _ => none

def number? : Value → Option Binary64
  | .number n => some n.toBinary64
  | _ => none

def vector? : Value → Option (List Binary64)
  | .array vs => vs.mapM number?
  | _ => none

def clampInt64 (n : Int) : Int := max (-0x8000000000000000) (min n 0x7FFFFFFFFFFFFFFF)

def millis? : Value → Option Int
  | .number n => some (n.int64?.getD (clampInt64 n.toBinary64.truncate))
  | .string s => Text.int64? (Text.trimChars s.toList)
  | _ => none

def instant? (v : Value) : Option Time.Instant := (millis? v).bind Time.Instant.ofMillis?

def metadataNames : List String := ["_additional", "__typename"]

/-- The object under `properties`; without one, in a graph answer, all fields but metadata. -/
def propertiesOf (shape : Shape) (fields : Json.Fields) : Json.Fields :=
  match Json.Fields.get? "properties" fields with
  | some (.object ps) => ps
  | _ => if shape = .graph then fields.filter fun f => f.1 ∉ metadataNames else []

def ofFields (shape : Shape) (fields : Json.Fields) : Record where
  id := ((metadata fields "id").bind idText?).getD sentinel
  properties := propertiesOf shape fields
  vector := (metadata fields "vector").bind vector?
  created := (metadata fields "creationTimeUnix").bind instant?
  updated := (metadata fields "lastUpdateTimeUnix").bind instant?
  raw := .object fields

def ofItem? (shape : Shape) (item : Value) : Option Record := item.fields?.map (ofFields shape)

end Record

namespace Payload

open Json (Value)

def located (body : Value) (className : String) : Shape → Option Value
  | .formatted => body.at? ["data", "objects"]
  | .rest => body.at? ["data", "result", "objects"]
  | .graph =>
    ((body.at? ["data", "data", "Get"]).or (body.at? ["data", "Get"])).bind (·.field? className)

def itemsOf (v : Option Value) : Option (List Value) :=
  match v with
  | some (.array (i :: is)) => some (i :: is)
  | _ => none

def find? (body : Value) (className : String) : Option (Shape × List Value) :=
  Shape.order.findSome? fun shape =>
    (itemsOf (located body className shape)).map fun items => (shape, items)

def ofBody (body : Value) (className : String) : Payload :=
  match find? body className with
  | some (shape, items) => ⟨some shape, items.filterMap (Record.ofItem? shape), items.length⟩
  | none => ⟨none, [], 0⟩

end Payload

end ClusterConsole
