import ClusterConsole.Backend.Endpoints
import ClusterConsole.Backend.Envelope
import ClusterConsole.Catalog.Entry
import ClusterConsole.Catalog.Schema

/-!
# Catalog calls

A call is a request and the meaning of its answer. All but the list of connections are answered in
an envelope.
-/

namespace ClusterConsole.Catalog

open Backend (Endpoints Failure Reply)
open Http (Request Response)
open Json (Value)

structure Call (α : Type) where
  request : Request
  read : Response → Except Failure α

def Call.finish {α : Type} (c : Call α) (reply : Reply) : Except Failure α :=
  reply.response?.bind c.read

def enveloped {α : Type} (request : Request) (ofBody : Value → α) : Call α :=
  ⟨request, fun r => (Backend.openEnvelope r).map ofBody⟩

def connectionsOf (body : Value) : List Connection :=
  (body.items?.getD []).filterMap Connection.ofEntry?

def listConnections (e : Endpoints) : Call (List Connection) :=
  ⟨.get e.connectionList, fun r => (Backend.plainBody r).map connectionsOf⟩

def withId (id : String) (fields : Json.Fields) : Json.Fields :=
  match Json.Fields.get? "id" fields with
  | some _ => fields
  | none => Json.Fields.insert "id" (.string id) fields

def connectionOf (id : String) (body : Value) : Connection :=
  .ofEntry (withId id (((body.field? "data").bind (·.fields?)).getD []))

def getConnection (e : Endpoints) (id : String) : Call Connection :=
  enveloped (.get (e.connectionGet id)) (connectionOf id)

def testConnection (e : Endpoints) (c : Connection) : Call Probe :=
  enveloped (.postJson e.connectionTest (.object (Json.Fields.swapRemove "id" c.wireFields)))
    Probe.ofBody

def listClasses (e : Endpoints) (c : Connection) : Call (List ClassSummary) :=
  enveloped (.postJson e.schemaQuery (.object c.wireFields)) classesOf

def classProperties (e : Endpoints) (c : Connection) (className : String) : Call (List String) :=
  enveloped
    (.postJson e.schemaClass
      (.object (Json.Fields.insert "className" (.string className) c.wireFields)))
    propertyNames

end ClusterConsole.Catalog
