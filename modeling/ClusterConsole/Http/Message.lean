import ClusterConsole.Http.Headers
import ClusterConsole.Json.Parser
import ClusterConsole.Json.Printer
import ClusterConsole.Transport.Failure

/-!
# Requests and responses

The values that every transport takes and gives. The names of a response's headers are in
lowercase; of several headers with one name the last counts.
-/

namespace ClusterConsole.Http

inductive Method where
  | get
  | post
  | put
  | delete
  | patch
  deriving DecidableEq, Repr

namespace Method

def name : Method → String
  | .get => "GET"
  | .post => "POST"
  | .put => "PUT"
  | .delete => "DELETE"
  | .patch => "PATCH"

def all : List Method := [.get, .post, .put, .delete, .patch]

def ofName? (s : String) : Option Method := all.find? fun m => m.name = s

def parse (s : String) : Except Transport.Failure Method :=
  match ofName? s with
  | some m => .ok m
  | none => .error (.unsupportedMethod s)

end Method

structure Request where
  url : String
  method : Method
  headers : Headers
  body : Option String
  deriving DecidableEq, Repr

namespace Request

def get (url : String) : Request := ⟨url, .get, .empty, none⟩

def postJson (url : String) (body : Json.Value) : Request :=
  ⟨url, .post, Headers.empty.insert "Content-Type" "application/json", some body.text⟩

def jsonBody? (r : Request) : Option Json.Value :=
  r.body.bind fun b => (Json.parse b).toOption

end Request

structure Response where
  status : UInt16
  statusText : String
  headers : Headers
  body : String
  deriving DecidableEq, Repr

namespace Response

def make (status : UInt16) (statusText : String) (headers : List (String × String))
    (body : String) : Response :=
  ⟨status, statusText, .ofList (headers.map fun e => (Text.lowerAscii e.1, e.2)), body⟩

def isSuccess (r : Response) : Bool := 200 ≤ r.status && r.status < 300

def header? (r : Response) (name : String) : Option String := r.headers.get? (Text.lowerAscii name)

def json (r : Response) : Except Transport.Failure Json.Value :=
  (Json.parse r.body).mapError fun e => .notJson e.message

end Response

end ClusterConsole.Http
