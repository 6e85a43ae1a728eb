import ClusterConsole.Backend.Failure
import ClusterConsole.Text.Blank
import ClusterConsole.Url.Parser

/-!
# The backend's endpoints

Every endpoint is a few segments behind the path of a base URL, whose query and fragment it keeps.
-/

namespace ClusterConsole.Backend

def defaultUrl : String := "http://127.0.0.1:5175"

structure Endpoints where
  base : Url
  deriving DecidableEq, Repr

namespace Endpoints

/-- The endpoints of a base URL. Blanks around it are left out, but not where it is reported. -/
def of (baseUrl : String) : Except Failure Endpoints :=
  match Url.parse (Text.trim baseUrl) with
  | .error e => .error (.invalidUrl (baseUrl ++ ": " ++ e.message))
  | .ok base => if base.isBase then .ok ⟨base⟩ else .error (.invalidUrl baseUrl)

def baseUrl (e : Endpoints) : String := e.base.text

def url (e : Endpoints) (segments : List String) : Url := e.base.join (segments.map String.toList)

def join (e : Endpoints) (segments : List String) : String := (e.url segments).text

def objectsQuery (e : Endpoints) : String := e.join ["objects", "query"]

def objectsSearch (e : Endpoints) : String := e.join ["objects", "search"]

def schemaClass (e : Endpoints) : String := e.join ["schema", "class"]

def schemaQuery (e : Endpoints) : String := e.join ["schema", "query"]

def connectionList (e : Endpoints) : String := e.join ["connection", "list"]

def connectionTest (e : Endpoints) : String := e.join ["connection", "test"]

def connectionGet (e : Endpoints) (id : String) : String := e.join ["connection", "get", id]

end Endpoints

end ClusterConsole.Backend
