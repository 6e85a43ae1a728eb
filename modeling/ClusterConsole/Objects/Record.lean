import ClusterConsole.Json.Decoder
import ClusterConsole.Time.Rfc3339

/-!
# Records

One stored object in the form that is shown, whatever form the backend answered in. An object whose
id the backend left out has the sentinel id, and in lists it goes by its position.
-/

namespace ClusterConsole

structure Record where
  id : String
  properties : Json.Fields
  vector : Option (List Binary64)
  created : Option Time.Instant
  updated : Option Time.Instant
  raw : Json.Value

namespace Record

def sentinel : String := "-"

def hasBackendId (r : Record) : Bool := r.id != sentinel

def listKey (r : Record) (position : Nat) : String :=
  if r.hasBackendId then r.id else "object-" ++ toString position

def rawPretty (r : Record) : String := r.raw.pretty

def optionalField {α : Type} (name : String) (encode : α → Json.Value) : Option α → Json.Fields
  | some a => [(name, encode a)]
  | none => []

def vectorJson (xs : List Binary64) : Json.Value := .array (xs.map fun x => .number (.real x))

def instantJson (t : Time.Instant) : Json.Value := .string t.text

def toJson (r : Record) : Json.Value :=
  .object ([("id", .string r.id), ("properties", .object r.properties)] ++
    optionalField "vector" vectorJson r.vector ++
    optionalField "creation_time" instantJson r.created ++
    optionalField "update_time" instantJson r.updated ++ [("raw_payload", r.raw)])

def instantDecoder : Json.Decoder Time.Instant
  | .string s => (Time.Instant.read s).mapError fun e => .unreadable e.message
  | v => .error (.badType v "an RFC 3339 formatted date and time string")

open Json.Decoder (Member string listOf fieldsOf optional any real)

def idField : Member String := ⟨0, "id", string, none⟩
def propertiesField : Member Json.Fields := ⟨1, "properties", fieldsOf any, none⟩
def vectorField : Member (Option (List Binary64)) :=
  ⟨2, "vector", optional (listOf real), some none⟩
def createdField : Member (Option Time.Instant) :=
  ⟨3, "creation_time", optional instantDecoder, some none⟩
def updatedField : Member (Option Time.Instant) :=
  ⟨4, "update_time", optional instantDecoder, some none⟩
def rawField : Member Json.Value := ⟨5, "raw_payload", any, none⟩

def form : Json.Decoder.Form := ⟨"struct CanonicalObjectRecord", 6⟩

def ofParts (parts : Json.Decoder.Parts) : Except Json.Mismatch Record := do
  let id ← idField.take form parts
  let properties ← propertiesField.take form parts
  let vector ← vectorField.take form parts
  let created ← createdField.take form parts
  let updated ← updatedField.take form parts
  let raw ← rawField.take form parts
  return ⟨id, properties, vector, created, updated, raw⟩

def decoder : Json.Decoder Record :=
  Json.Decoder.build form
    [idField.check, propertiesField.check, vectorField.check, createdField.check,
      updatedField.check, rawField.check] ofParts

end Record

end ClusterConsole
