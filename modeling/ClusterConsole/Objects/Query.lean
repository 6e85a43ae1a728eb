import ClusterConsole.Backend.Endpoints
import ClusterConsole.Cluster.Connection
import ClusterConsole.Filter.FilterSet
import ClusterConsole.Http.Message
import ClusterConsole.Objects.Cursor
import ClusterConsole.Objects.Page

/-!
# Queries

Any active predicate makes a query a search, which is one page and has no cursor. Without one it is
a listing that continues after the cursor.
-/

namespace ClusterConsole

open Backend (Endpoints)

inductive Query.Mode where
  | listing (after : Option String)
  | search (predicates : List Filter.Predicate) (logic : Filter.Logic)
  deriving DecidableEq, Repr

structure Query where
  className : String
  limit : UInt64
  mode : Query.Mode
  deriving DecidableEq, Repr

namespace Query

def defaultLimit : UInt64 := 100

namespace Mode

def select (filters : FilterSet) (after : Option String) : Mode :=
  if filters.active.isEmpty then .listing after else .search filters.active filters.logic

def isSearch : Mode → Bool
  | .listing _ => false
  | .search _ _ => true

def fields : Mode → Json.Fields
  | .listing none => [("after", .null)]
  | .listing (some id) => [("after", .string id)]
  | .search ps logic => [("filters", FilterSet.predicatesJson ps), ("logic", logic.toJson)]

end Mode

def endpoint (q : Query) (e : Endpoints) : String :=
  match q.mode with
  | .listing _ => e.objectsQuery
  | .search _ _ => e.objectsSearch

def body (q : Query) (c : Connection) : Json.Value :=
  .object (c.wireFields ++
    [("className", .string q.className), ("limit", .number (.natural q.limit))] ++ q.mode.fields)

def toRequest (q : Query) (c : Connection) (e : Endpoints) : Http.Request :=
  .postJson (q.endpoint e) (q.body c)

end Query

end ClusterConsole
