import ClusterConsole.Filter.Predicate

/-! Predicates as they were entered, active or not, and how the active ones combine. -/

namespace ClusterConsole

structure FilterSet where
  predicates : List Filter.Predicate
  logic : Filter.Logic
  deriving DecidableEq, Repr

namespace FilterSet

def empty : FilterSet := ⟨[], .and⟩

def active (f : FilterSet) : List Filter.Predicate := f.predicates.filter (·.isActive)

def hasActive (f : FilterSet) : Bool := f.predicates.any (·.isActive)

def predicatesJson (ps : List Filter.Predicate) : Json.Value :=
  .array (ps.map Filter.Predicate.toJson)

def toJson (f : FilterSet) : Json.Value :=
  .object [("predicates", predicatesJson f.predicates), ("logic", f.logic.toJson)]

open Json.Decoder (Member listOf)

def predicatesField : Member (List Filter.Predicate) :=
  ⟨0, "predicates", listOf Filter.Predicate.decoder, none⟩
def logicField : Member Filter.Logic := ⟨1, "logic", Filter.Logic.decoder, some .and⟩

def form : Json.Decoder.Form := ⟨"struct FilterSet", 2⟩

def ofParts (parts : Json.Decoder.Parts) : Except Json.Mismatch FilterSet := do
  let predicates ← predicatesField.take form parts
  let logic ← logicField.take form parts
  return ⟨predicates, logic⟩

def decoder : Json.Decoder FilterSet :=
  Json.Decoder.build form [predicatesField.check, logicField.check] ofParts

end FilterSet

end ClusterConsole
