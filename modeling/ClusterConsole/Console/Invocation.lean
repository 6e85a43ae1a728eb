import ClusterConsole.Cluster.Connection
import ClusterConsole.Console.Arguments
import ClusterConsole.Filter.FilterSet
import ClusterConsole.Text.Integer

/-!
# Invocations

What a command line asks for. A line that breaks a rule asks for nothing: an unknown command or
option, an option without its value or given twice, a value that cannot be read, a word too many or
too few, or options that exclude each other.
-/

namespace ClusterConsole.Console

inductive ClusterChoice where
  | saved (id : String)
  | given (connection : Connection)
  | missing
  deriving DecidableEq, Repr

inductive Display where
  | pages
  | search (text : String)
  | window (index : UInt64)
  | raw (id : String)
  deriving DecidableEq, Repr

structure Listing where
  className : String
  filters : FilterSet
  pages : UInt64
  display : Display
  deriving DecidableEq, Repr

inductive Command where
  | connections
  | connection (id : String)
  | testConnection (cluster : ClusterChoice)
  | classes (cluster : ClusterChoice)
  | properties (cluster : ClusterChoice) (className : String)
  | objects (cluster : ClusterChoice) (listing : Listing)
  deriving DecidableEq, Repr

structure Invocation where
  home : Option String
  backendUrl : Option String
  verbose : Bool
  command : Command
  deriving DecidableEq, Repr

def globalNames : List String := ["conf", "backend-url"]

def clusterNames : List String := ["connection-id", "address", "scheme", "api-key", "name"]

def listingNames : List String :=
  ["class", "filter", "logic", "pages", "search", "display-page", "raw"]

def ownNames : String → Option (List String)
  | "connections" => some []
  | "connection" => some []
  | "test-connection" => some clusterNames
  | "classes" => some clusterNames
  | "properties" => some ("class" :: clusterNames)
  | "objects" => some (listingNames ++ clusterNames)
  | _ => none

def ClusterChoice.of (id address : Option String) (scheme : Scheme) (key : Option String)
    (name : String) : ClusterChoice :=
  match id, address.filter fun a => !Text.allBlank a with
  | some id, _ => .saved id
  | none, some a => .given ⟨"", name, scheme, a, key.filter (· ≠ "")⟩
  | none, none => .missing

def ClusterChoice.read? (l : Level) : Option ClusterChoice := do
  let id ← l.single? "connection-id"
  let address ← l.single? "address"
  let schemeName ← l.single? "scheme"
  let scheme ← (Scheme.parse (schemeName.getD "")).toOption
  let key ← l.single? "api-key"
  let name ← l.single? "name"
  if id.isSome && address.isSome then none else some (.of id address scheme key (name.getD ""))

def number? (text : Option String) : Option (Option UInt64) :=
  match text with
  | none => some none
  | some s => (Text.word? 0x10000000000000000 s.toList).map fun n => some n.toUInt64

/-- An object as it came excludes the other displays; of these a search comes first. -/
def Display.of? (search : Option String) (window : Option UInt64) (raw : Option String) :
    Option Display :=
  match raw, search, window with
  | some id, none, none => some (.raw id)
  | some _, _, _ => none
  | none, some text, _ => some (.search text)
  | none, none, some index => some (.window index)
  | none, none, none => some .pages

def Listing.read? (l : Level) : Option Listing := do
  let className ← ← l.single? "class"
  let predicates ← (l.all "filter").mapM fun s => (Filter.Predicate.parse s).toOption
  let logic ← l.single? "logic"
  let pages ← number? (← l.single? "pages")
  let window ← number? (← l.single? "display-page")
  let display ← Display.of? (← l.single? "search") window (← l.single? "raw")
  return ⟨className, ⟨predicates, Filter.Logic.parse (logic.getD "and")⟩, pages.getD 1, display⟩

def Command.read? (name : String) (l : Level) : Option Command :=
  match name, l.words with
  | "connections", [] => some .connections
  | "connection", [id] => some (.connection id)
  | "test-connection", [] => (ClusterChoice.read? l).map .testConnection
  | "classes", [] => (ClusterChoice.read? l).map .classes
  | "properties", [] => do
    let cluster ← ClusterChoice.read? l
    let className ← ← l.single? "class"
    return .properties cluster className
  | "objects", [] => do
    let cluster ← ClusterChoice.read? l
    let listing ← Listing.read? l
    return .objects cluster listing
  | _, _ => none

/-- An option that each level may give once; the one behind the command counts. -/
def global? (before after : Level) (name : String) : Option (Option String) := do
  let first ← before.single? name
  let second ← after.single? name
  return second.or first

def hasEmptyHome (l : Level) : Bool := (l.all "conf").contains ""

def Invocation.parse? (args : List String) : Option Invocation := do
  let (front, name, back) ← Level.split? globalNames args
  let own ← ownNames name
  let before ← Level.read? globalNames front
  let after ← Level.read? (globalNames ++ own) back
  let home ← global? before after "conf"
  let backendUrl ← global? before after "backend-url"
  let command ← Command.read? name after
  if hasEmptyHome before || hasEmptyHome after || 1 < before.verbose || 1 < after.verbose then none
  else some ⟨home, backendUrl, 0 < before.verbose + after.verbose, command⟩

end ClusterConsole.Console
