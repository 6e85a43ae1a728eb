import ClusterConsole.Objects.Record

/-!
# The listing cursor

A full page is continued after its last record. After a page that is not full, or whose last record
has no id of the backend's, the listing starts from the beginning.
-/

namespace ClusterConsole

inductive Cursor where
  | start
  | after (id : String)
  deriving DecidableEq, Repr

namespace Cursor

def id? : Cursor → Option String
  | .start => none
  | .after id => some id

/-- The cursor after a page of `itemCount` items, of which `requested` were asked for and `records`
were objects. -/
def ofPage (records : List Record) (itemCount requested : Nat) : Cursor :=
  match records.getLast? with
  | some last => if itemCount = requested ∧ last.hasBackendId then .after last.id else .start
  | none => .start

def isPositioned : Cursor → Bool
  | .start => false
  | .after _ => true

end Cursor

end ClusterConsole
