import ClusterConsole.Cluster.Connection
import ClusterConsole.Objects.Record

/-! What is shown of a cluster's schema and of a connection that was tried. -/

namespace ClusterConsole.Catalog

open Json (Value)

def textAt? (v : Value) (name : String) : Option String := (v.field? name).bind (·.string?)

def itemsAt (v : Value) (path : List String) : List Value :=
  ((v.at? path).bind (·.items?)).getD []

def nullable : Option String → Value
  | some s => .string s
  | none => .null

structure ClassSummary where
  /-- The sentinel when the definition has no name. -/
  className : String
  vectorizer : Option String
  vectorIndexType : Option String
  propertyCount : UInt64
  raw : Value

namespace ClassSummary

def ofDefinition (v : Value) : ClassSummary where
  className := (textAt? v "class").getD Record.sentinel
  vectorizer := textAt? v "vectorizer"
  vectorIndexType := textAt? v "vectorIndexType"
  propertyCount := (itemsAt v ["properties"]).length.toUInt64
  raw := v

def toJson (c : ClassSummary) : Value :=
  .object [("className", .string c.className), ("vectorizer", nullable c.vectorizer),
    ("vectorIndexType", nullable c.vectorIndexType),
    ("propertyCount", .number (.natural c.propertyCount)), ("raw", c.raw)]

end ClassSummary

def classesOf (body : Value) : List ClassSummary :=
  (itemsAt body ["data", "schema", "classes"]).map ClassSummary.ofDefinition

def addName (names : List String) (name : String) : List String :=
  if name ∈ names then names else names ++ [name]

def declaredNames (entries : List Value) : List String :=
  entries.filterMap fun e => (textAt? e "name").filter (· ≠ "")

def propertyNames (body : Value) : List String :=
  (declaredNames (itemsAt body ["data", "schema", "properties"])).foldl addName ["id"]

structure Probe where
  name : Option String
  address : Option String
  readyUrl : Option String
  metaUrl : Option String
  schemaUrl : Option String
  about : Value

namespace Probe

def ofBody (body : Value) : Probe :=
  let data := (body.field? "data").getD .null
  let probe := (data.field? "probe").getD .null
  ⟨textAt? data "name", textAt? data "address", textAt? probe "ready", textAt? probe "meta",
    textAt? probe "schema", (data.field? "meta").getD .null⟩

def toJson (p : Probe) : Value :=
  .object [("name", nullable p.name), ("address", nullable p.address),
    ("readyUrl", nullable p.readyUrl), ("metaUrl", nullable p.metaUrl),
    ("schemaUrl", nullable p.schemaUrl), ("meta", p.about)]

end Probe

end ClusterConsole.Catalog
