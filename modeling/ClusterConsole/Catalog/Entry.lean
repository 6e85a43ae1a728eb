import ClusterConsole.Cluster.Connection
import ClusterConsole.Text.Blank

/-!
# Catalog entries

A saved connection is read from any object, however little it holds. Texts count without the blanks
around them and only if something is left.
-/

namespace ClusterConsole.Connection

def entryText? (fields : Json.Fields) (name : String) : Option String :=
  (((Json.Fields.get? name fields).bind (·.string?)).map Text.trim).filter (· ≠ "")

def entryScheme (fields : Json.Fields) : Scheme :=
  match (entryText? fields "scheme").map Scheme.parse with
  | some (.ok s) => s
  | _ => .http

/-- Without an id of its own an entry goes by its name, and without a name by its URL. -/
def ofEntry (fields : Json.Fields) : Connection :=
  let scheme := entryScheme fields
  let address := (entryText? fields "address").getD ""
  let name := entryText? fields "name"
  ⟨((entryText? fields "id").or name).getD (scheme.name ++ "://" ++ address), name.getD "", scheme,
    address, entryText? fields "apiKey"⟩

def ofEntry? (entry : Json.Value) : Option Connection := entry.fields?.map ofEntry

end ClusterConsole.Connection
