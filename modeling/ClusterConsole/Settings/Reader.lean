import ClusterConsole.Settings.Basic
import ClusterConsole.Yaml.Integer
import ClusterConsole.Yaml.Node

/-!
# Reading settings

A settings file is a mapping of sections. Unknown keys are skipped, known ones may occur once, and
nothing written stands for no setting. A file with any fault says nothing at all.
-/

namespace ClusterConsole.Settings

open Yaml (Node)

/-- A section's entries by key. A section with nothing in it is empty; null is no section. -/
def entries? : Node → Option (List (String × Node))
  | .mapping entries => entries.mapM fun e => match e.1 with
    | .scalar key _ => some (key, e.2)
    | _ => none
  | .scalar "" false => some []
  | _ => none

def single? (key : String) (entries : List (String × Node)) : Option (Option Node) :=
  match entries.filter (·.1 = key) with
  | [] => some none
  | [e] => some (some e.2)
  | _ => none

def nulls : List String := ["", "~", "null", "Null", "NULL"]

def isNull : Node → Bool
  | .scalar text quoted => !quoted && nulls.contains text
  | _ => false

/-- A setting, which is open if its key is absent or null, and a fault if `read?` cannot read it. -/
def setting {α : Type} (read? : Node → Option α) (key : String)
    (entries : List (String × Node)) : Option (Option α) := do
  match ← single? key entries with
  | none => return none
  | some v => if isNull v then return none else (read? v).map some

def text? : Node → Option String
  | .scalar text _ => some text
  | _ => none

def number? (limit : Nat) : Node → Option Nat
  | .scalar text false => (Yaml.natural? text.toList).filter (· < limit)
  | _ => none

def word64? (v : Node) : Option UInt64 := (number? 0x10000000000000000 v).map Nat.toUInt64

def word32? (v : Node) : Option UInt32 := (number? 0x100000000 v).map Nat.toUInt32

def sectionEntries? (key : String) (entries : List (String × Node)) :
    Option (List (String × Node)) := do
  match ← single? key entries with
  | none => return []
  | some v => entries? v

def ofNode? (root : Node) : Option Settings := do
  let sections ← entries? root
  let backend ← sectionEntries? "backend" sections
  let objects ← sectionEntries? "objects" sections
  let bridge ← sectionEntries? "bridge" sections
  let baseUrl ← setting text? "base_url" backend
  let requestTimeout ← setting word64? "request_timeout_secs" backend
  let fetchPageSize ← setting word64? "fetch_page_size" objects
  let displayPageSize ← setting word64? "display_page_size" objects
  let maxAttempts ← setting word32? "max_attempts" bridge
  let retryBackoff ← setting word64? "retry_backoff_ms" bridge
  return { baseUrl, requestTimeout, fetchPageSize, displayPageSize, maxAttempts, retryBackoff }

def ofBytes? (bytes : List UInt8) : Option Settings := do
  let text ← Text.utf8? bytes
  let root ← Node.parse? (String.ofList text)
  ofNode? root

def ofFile (content : Option (List UInt8)) : Settings := (content.bind ofBytes?).getD empty

def ofFiles (system user : Option (List UInt8)) : Settings := (ofFile system).under (ofFile user)

end ClusterConsole.Settings
