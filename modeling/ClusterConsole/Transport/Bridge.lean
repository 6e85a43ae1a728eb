import ClusterConsole.Http.Message
import ClusterConsole.Json.Decoder

/-!
# The host bridge

A sandboxed process asks its desktop host to make a request. Request and answer cross the bridge as
JSON; an answer has its whole body as text, and a failure is a plain message.
-/

namespace ClusterConsole.Transport

open Http (Headers Request Response)
open Json.Decoder (Member string natural fieldsOf optional)

structure BridgeRequest where
  url : String
  method : String
  headers : Option Headers
  body : Option String
  deriving DecidableEq, Repr

structure BridgeResponse where
  status : UInt16
  statusText : String
  headers : Headers
  body : String
  deriving DecidableEq, Repr

def headersJson (h : Headers) : Json.Value :=
  .object (h.entries.map fun e => (e.1, .string e.2))

def headersDecoder : Json.Decoder Headers := fun v =>
  (fieldsOf string v).map Headers.ofList

def nullable {α : Type} (encode : α → Json.Value) : Option α → Json.Value
  | some a => encode a
  | none => .null

namespace BridgeRequest

def toJson (r : BridgeRequest) : Json.Value :=
  .object [("url", .string r.url), ("method", .string r.method),
    ("headers", nullable headersJson r.headers), ("body", nullable .string r.body)]

def urlField : Member String := ⟨0, "url", string, none⟩
def methodField : Member String := ⟨1, "method", string, none⟩
def headersField : Member (Option Headers) := ⟨2, "headers", optional headersDecoder, some none⟩
def bodyField : Member (Option String) := ⟨3, "body", optional string, some none⟩

def form : Json.Decoder.Form := ⟨"struct BridgeRequest", 4⟩

def ofParts (parts : Json.Decoder.Parts) : Except Json.Mismatch BridgeRequest := do
  let url ← urlField.take form parts
  let method ← methodField.take form parts
  let headers ← headersField.take form parts
  let body ← bodyField.take form parts
  return ⟨url, method, headers, body⟩

def decoder : Json.Decoder BridgeRequest :=
  Json.Decoder.build form
    [urlField.check, methodField.check, headersField.check, bodyField.check] ofParts

def ofRequest (r : Request) : BridgeRequest := ⟨r.url, r.method.name, some r.headers, r.body⟩

end BridgeRequest

namespace BridgeResponse

def toJson (r : BridgeResponse) : Json.Value :=
  .object [("status", .number (.natural r.status.toUInt64)), ("status_text", .string r.statusText),
    ("headers", headersJson r.headers), ("body", .string r.body)]

def statusDecoder : Json.Decoder UInt16 := fun v => (natural 0x10000 "u16" v).map Nat.toUInt16

def statusField : Member UInt16 := ⟨0, "status", statusDecoder, none⟩
def statusTextField : Member String := ⟨1, "status_text", string, none⟩
def headersField : Member Headers := ⟨2, "headers", headersDecoder, some .empty⟩
def bodyField : Member String := ⟨3, "body", string, none⟩

def form : Json.Decoder.Form := ⟨"struct BridgeResponse", 4⟩

def ofParts (parts : Json.Decoder.Parts) : Except Json.Mismatch BridgeResponse := do
  let status ← statusField.take form parts
  let statusText ← statusTextField.take form parts
  let headers ← headersField.take form parts
  let body ← bodyField.take form parts
  return ⟨status, statusText, headers, body⟩

def decoder : Json.Decoder BridgeResponse :=
  Json.Decoder.build form
    [statusField.check, statusTextField.check, headersField.check, bodyField.check] ofParts

def toResponse (r : BridgeResponse) : Response :=
  .make r.status r.statusText r.headers.entries r.body

end BridgeResponse

def overBridge (answer : Except String BridgeResponse) : Except Failure Response :=
  match answer with
  | .ok r => .ok r.toResponse
  | .error message => .error (.bridge message)

end ClusterConsole.Transport
