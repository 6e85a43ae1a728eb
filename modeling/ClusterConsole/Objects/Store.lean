import ClusterConsole.Objects.Page
import ClusterConsole.Text.Lowercase

/-!
# The store

The store holds one page and a generation. Every fetch takes a ticket with a generation of its own,
and its result is taken only while no later ticket was issued and nothing else has raised the
generation. A result replaces the page as a whole; a failure leaves it and is remembered.
-/

namespace ClusterConsole

structure Ticket where
  generation : Nat
  deriving DecidableEq, Repr

structure Store where
  page : Page
  generation : Nat
  lastError : Option String

namespace Store

inductive Outcome where
  | applied
  | stale
  deriving DecidableEq, Repr

def new (displayPageSize : UInt64) : Store :=
  ⟨{ Page.empty with pageSize := max displayPageSize 1 }, 0, none⟩

def invalidate (s : Store) : Store := { s with generation := s.generation + 1 }

def begin (s : Store) : Ticket × Store := (⟨s.generation + 1⟩, s.invalidate)

def isCurrent (s : Store) (t : Ticket) : Bool := t.generation == s.generation

def clampIndex (index count : UInt64) : UInt64 :=
  if index < 1 then 1 else if count < index then count else index

/-- The records in the window that was shown before, moved back if it lies behind the last page. -/
def rewindow (old : Page) (records : List Record) : Page :=
  let page := { Page.ofRecords records with pageIndex := old.pageIndex, pageSize := old.pageSize }
  { page with pageIndex := clampIndex page.pageIndex page.pageCount }

def replace (s : Store) (t : Ticket) (records : List Record) : Outcome × Store :=
  if s.isCurrent t then
    (.applied, { s with page := rewindow s.page records, lastError := none })
  else (.stale, s)

def fail (s : Store) (t : Ticket) (message : String) : Outcome × Store :=
  if s.isCurrent t then (.applied, { s with lastError := some message }) else (.stale, s)

def clear (s : Store) : Store :=
  { s.invalidate with page := { Page.empty with pageSize := s.page.pageSize }, lastError := none }

def setPageIndex (s : Store) (index : UInt64) : Store :=
  { s with page := { s.page with pageIndex := clampIndex index s.page.pageCount } }

def setPageSize (s : Store) (size : UInt64) : Store :=
  { s with page := { s.page with pageSize := max size 1, pageIndex := 1 } }

def resetWindow (s : Store) : Store := { s with page := { s.page with pageIndex := 1 } }

def contains (needle : List Char) : List Char → Bool
  | [] => needle.isEmpty
  | c :: cs => needle.isPrefixOf (c :: cs) || contains needle cs

def matchesNeedle (needle : List Char) (r : Record) : Bool :=
  needle.isEmpty ||
    contains needle (Text.lowercaseChars r.id.toList) ||
    contains needle (Text.lowercaseChars (Json.Value.object r.properties).chars)

def search (s : Store) (query : String) : List Record :=
  s.page.records.filter (matchesNeedle (Text.lowercaseChars (Text.trimChars query.toList)))

end Store

end ClusterConsole
