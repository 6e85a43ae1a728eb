import ClusterConsole.Cluster.Scheme

/-!
# Connections

What names a cluster and how it is reached. Every request about a cluster carries the five wire
fields of its connection, where an absent key is an empty text.
-/

namespace ClusterConsole

structure Connection where
  id : String
  name : String
  scheme : Scheme
  address : String
  apiKey : Option String
  deriving DecidableEq, Repr

namespace Connection

def dropSlashes (s : String) : String :=
  String.ofList (s.toList.reverse.dropWhile (· == '/')).reverse

def baseUrl (c : Connection) : String := dropSlashes (c.scheme.name ++ "://" ++ c.address)

def wireFields (c : Connection) : Json.Fields :=
  [("id", .string c.id), ("name", .string c.name), ("scheme", c.scheme.toJson),
    ("address", .string c.address), ("apiKey", .string (c.apiKey.getD ""))]

def keyFields : Option String → Json.Fields
  | some key => [("apiKey", .string key)]
  | none => []

def toJson (c : Connection) : Json.Value :=
  .object ([("id", .string c.id), ("name", .string c.name), ("scheme", c.scheme.toJson),
    ("address", .string c.address)] ++ keyFields c.apiKey)

def keyDecoder : Json.Decoder (Option String) := fun v =>
  (Json.Decoder.optional Json.Decoder.string v).map fun k => k.filter (· ≠ "")

open Json.Decoder (Member string)

def idField : Member String := ⟨0, "id", string, none⟩
def nameField : Member String := ⟨1, "name", string, none⟩
def schemeField : Member Scheme := ⟨2, "scheme", Scheme.decoder, some .http⟩
def addressField : Member String := ⟨3, "address", string, none⟩
def keyField : Member (Option String) := ⟨4, "apiKey", keyDecoder, some none⟩

def form : Json.Decoder.Form := ⟨"struct ConnectionRef", 5⟩

def ofParts (parts : Json.Decoder.Parts) : Except Json.Mismatch Connection := do
  let id ← idField.take form parts
  let name ← nameField.take form parts
  let scheme ← schemeField.take form parts
  let address ← addressField.take form parts
  let key ← keyField.take form parts
  return ⟨id, name, scheme, address, key⟩

def decoder : Json.Decoder Connection :=
  Json.Decoder.build form
    [idField.check, nameField.check, schemeField.check, addressField.check, keyField.check] ofParts

end Connection

end ClusterConsole
