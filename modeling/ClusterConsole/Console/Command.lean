import ClusterConsole.Catalog.Call
import ClusterConsole.Console.Invocation
import ClusterConsole.Console.Task
import ClusterConsole.Objects.Engine

/-!
# What commands do

Every command but `objects` prints one document. That one follows the listing from page to page as
far as it is told and the listing goes on, and prints each page or, at the end, a part of the last.
-/

namespace ClusterConsole.Console

open Backend (Endpoints)
open Engine (Config Report)
open Json (Value)

namespace Task

def call {α : Type} (c : Catalog.Call α) : Task α :=
  ask c.request fun reply => ofExcept (c.finish reply)

end Task

def ClusterChoice.resolve (endpoints : Endpoints) : ClusterChoice → Task Connection
  | .saved id => .call (Catalog.getConnection endpoints id)
  | .given c => .done c
  | .missing => .fail .noCluster

def pageDocument (number : Nat) (r : Report) : Value :=
  .object ([("page", .number (.natural number.toUInt64)), ("searchMode", .bool r.searchMode),
    ("capped", .bool r.capped), ("hasMore", .bool r.hasMore),
    ("total", .number (.natural r.page.total))] ++ (Resolution.ok r.page.records).fields)

def walk (config : Config) (shown : Bool) : (left number : Nat) → Engine → Task Engine
  | 0, _, e => .done e
  | left + 1, number, e => do
    let (issued, e) ← Task.ofExcept (e.issue config)
    let reply ← Task.ask issued.request .done
    match e.complete issued reply with
    | (.failed failure, _) => .fail (.backend failure)
    | (.stale, e) => return e
    | (.applied report, e) =>
      if shown then Task.printJson (pageDocument number report)
      if report.hasMore then walk config shown left (number + 1) e else return e

def recordsDocument (records : List Record) : Value := (Resolution.ok records).toJson

namespace Display

def showsPages : Display → Bool
  | .pages => true
  | _ => false

def finish (e : Engine) : Display → Task Unit
  | .pages => .done ()
  | .search text => .printJson (recordsDocument (e.searchLocal text))
  | .window index => .printJson (recordsDocument (e.setDisplayPage index).store.page.visible)
  | .raw id =>
    match e.store.page.records.find? fun r => r.id = id with
    | some r => .printLine r.rawPretty
    | none => .fail (.noObject id)

end Display

def Listing.engine (l : Listing) (config : Config) (c : Connection) : Engine :=
  ((Engine.new config).selectTarget ⟨c, l.className⟩).setFilters l.filters

def Listing.task (l : Listing) (config : Config) (c : Connection) : Task Unit := do
  let e ← walk config l.display.showsPages (max l.pages 1).toNat 1 (l.engine config c)
  l.display.finish e

def Command.task (config : Config) : Command → Task Unit
  | .connections => do
    let cs ← Task.call (Catalog.listConnections config.endpoints)
    Task.printJson (.array (cs.map Connection.toJson))
  | .connection id => do
    let c ← Task.call (Catalog.getConnection config.endpoints id)
    Task.printJson c.toJson
  | .testConnection cluster => do
    let c ← cluster.resolve config.endpoints
    let probe ← Task.call (Catalog.testConnection config.endpoints c)
    Task.printJson probe.toJson
  | .classes cluster => do
    let c ← cluster.resolve config.endpoints
    let classes ← Task.call (Catalog.listClasses config.endpoints c)
    Task.printJson (.array (classes.map Catalog.ClassSummary.toJson))
  | .properties cluster className => do
    let c ← cluster.resolve config.endpoints
    let names ← Task.call (Catalog.classProperties config.endpoints c className)
    Task.printJson (.array (names.map .string))
  | .objects cluster listing => do
    let c ← cluster.resolve config.endpoints
    listing.task config c

end ClusterConsole.Console
