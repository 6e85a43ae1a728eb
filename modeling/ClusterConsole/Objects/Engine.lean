import ClusterConsole.Backend.Envelope
import ClusterConsole.Objects.Payload
import ClusterConsole.Objects.Query
import ClusterConsole.Objects.Store

/-!
# The retrieval engine

A fetch has two steps. `issue` takes a ticket and makes the request from the target, the filters and
the cursor; `complete` takes in what came of it, some time later. What came of a fetch that was
overtaken, by another fetch or by a change of target or filters, is dropped. A failure changes
nothing but the last error.
-/

namespace ClusterConsole

open Backend (Endpoints Failure Reply)

namespace Engine

structure Options where
  fetchPageSize : UInt64
  displayPageSize : UInt64
  timeout : Option Nat
  deriving DecidableEq, Repr

def defaultTimeout : Nat := 30000

structure Target where
  connection : Connection
  className : String
  deriving DecidableEq, Repr

structure Config where
  endpoints : Endpoints
  options : Options
  deriving DecidableEq, Repr

def Config.make (endpoints : Endpoints) (options : Options) : Config :=
  ⟨endpoints, { options with fetchPageSize := max options.fetchPageSize 1 }⟩

structure Issued where
  ticket : Ticket
  query : Query
  request : Http.Request
  deriving DecidableEq, Repr

structure Report where
  page : Page
  searchMode : Bool
  capped : Bool
  shape : Option Shape
  hasMore : Bool

inductive Completion where
  | applied (report : Report)
  | stale
  | failed (failure : Failure)

end Engine

structure Engine where
  target : Option Engine.Target
  filters : FilterSet
  cursor : Cursor
  store : Store

namespace Engine

def new (config : Config) : Engine :=
  ⟨none, .empty, .start, .new config.options.displayPageSize⟩

/-- Another target drops page, filters and cursor; the same one changes nothing. -/
def selectTarget (e : Engine) (t : Target) : Engine :=
  if e.target = some t then e else ⟨some t, .empty, .start, e.store.clear⟩

/-- Other filters reset the cursor; the page stays until the next fetch. -/
def setFilters (e : Engine) (f : FilterSet) : Engine :=
  if e.filters = f then e
  else { e with filters := f, cursor := .start, store := e.store.invalidate }

/-- The first half of a refresh: back to the beginning of the listing and of the window. -/
def restart (e : Engine) : Engine :=
  { e with cursor := .start, store := e.store.resetWindow }

def query (e : Engine) (config : Config) (t : Target) : Query :=
  ⟨t.className, config.options.fetchPageSize, .select e.filters e.cursor.id?⟩

def issue (e : Engine) (config : Config) : Except Failure (Issued × Engine) :=
  match e.target with
  | none => .error .noTarget
  | some t =>
    let q := e.query config t
    let (ticket, store) := e.store.begin
    .ok (⟨ticket, q, q.toRequest t.connection config.endpoints⟩,
      { e with cursor := if q.mode.isSearch then .start else e.cursor, store })

def payloadOf (q : Query) (reply : Reply) : Except Failure Payload := do
  let response ← reply.response?
  let body ← Backend.openEnvelope response
  return .ofBody body q.className

def nextCursor (old : Cursor) (q : Query) (p : Payload) : Cursor :=
  if q.mode.isSearch then old else .ofPage p.records p.itemCount q.limit.toNat

def complete (e : Engine) (i : Issued) (reply : Reply) : Completion × Engine :=
  if !e.store.isCurrent i.ticket then (.stale, e)
  else match payloadOf i.query reply with
    | .error failure =>
      (.failed failure, { e with store := (e.store.fail i.ticket failure.message).2 })
    | .ok p =>
      let cursor := nextCursor e.cursor i.query p
      let store := (e.store.replace i.ticket p.records).2
      let search := i.query.mode.isSearch
      (.applied ⟨store.page, search, search, p.shape, cursor.isPositioned⟩,
        { e with cursor, store })

def setDisplayPage (e : Engine) (index : UInt64) : Engine :=
  { e with store := e.store.setPageIndex index }

def setDisplayPageSize (e : Engine) (size : UInt64) : Engine :=
  { e with store := e.store.setPageSize size }

def searchLocal (e : Engine) (query : String) : List Record := e.store.search query

end Engine

inductive Resolution where
  | ok (records : List Record)
  | error (message : String)

namespace Resolution

def of? : Engine.Completion → Option Resolution
  | .applied report => some (.ok report.page.records)
  | .stale => none
  | .failed failure => some (.error failure.message)

def fields : Resolution → Json.Fields
  | .ok records => [("ok", .array (records.map Record.toJson))]
  | .error message => [("error", .string message)]

def toJson (r : Resolution) : Json.Value := .object r.fields

end Resolution

end ClusterConsole
