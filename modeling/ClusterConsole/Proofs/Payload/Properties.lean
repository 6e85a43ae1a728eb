import ClusterConsole.Objects.Payload
import ClusterConsole.Proofs.Json.Decoder

/-!
# The properties of a graph answer's objects

In the answer to a graph query an object has its properties beside its metadata, under whatever
names the class gives them. They are all kept, in order, unless one of them is named `properties`
and is an object: that one is then taken for all of them.
-/

namespace ClusterConsole

namespace Json.Value

theorem sizeOf_lt_of_mem {name : String} {fields inner : Fields}
    (h : (name, .object inner) ∈ fields) : sizeOf inner < sizeOf fields := by
  have hfield := List.sizeOf_lt_of_mem h
  simp only [Prod.mk.sizeOf_spec, object.sizeOf_spec] at hfield
  omega

end Json.Value

namespace Record

open Json (Value Fields)

def graphProperties (fields : Fields) : Fields :=
  fields.filter fun f => f.1 ≠ "_additional" ∧ f.1 ≠ "__typename"

theorem not_mem_metadataNames (name : String) :
    name ∉ metadataNames ↔ name ≠ "_additional" ∧ name ≠ "__typename" := by
  simp [metadataNames]

theorem propertiesOf_nested {fields inner : Fields} (shape : Shape)
    (h : Fields.get? "properties" fields = some (.object inner)) :
    propertiesOf shape fields = inner := by
  rw [propertiesOf, h]

theorem propertiesOf_graph {fields : Fields}
    (h : ∀ inner, Fields.get? "properties" fields ≠ some (.object inner)) :
    propertiesOf .graph fields = graphProperties fields := by
  unfold propertiesOf
  split
  · next inner hinner => exact absurd hinner (h inner)
  · rw [if_pos rfl, graphProperties]
    simp only [not_mem_metadataNames]

/-- What an object holds under `properties` is smaller than the object, and so it cannot have all
the object's properties. -/
theorem nested_ne_graphProperties {fields inner : Fields}
    (h : Fields.get? "properties" fields = some (.object inner)) :
    inner ≠ graphProperties fields := by
  intro he
  have hkept : ("properties", Value.object inner) ∈ graphProperties fields :=
    List.mem_filter.2 ⟨Fields.mem_of_get? h, by simp⟩
  rw [← he] at hkept
  exact Nat.lt_irrefl _ (Value.sizeOf_lt_of_mem hkept)

/-- An object in the answer to a graph query becomes a record. It keeps exactly the fields that are
not metadata, unchanged and in order, if and only if none of them is an object named `properties`.
From such a one come all the properties, and every other is lost. -/
theorem graph_properties_kept_iff (fields : Fields) :
    ∃ r, ofItem? .graph (.object fields) = some r ∧
      (r.properties = graphProperties fields ↔
        ∀ inner, Fields.get? "properties" fields ≠ some (.object inner)) ∧
      ∀ inner, Fields.get? "properties" fields = some (.object inner) → r.properties = inner := by
  refine ⟨ofFields .graph fields, rfl, ⟨?_, propertiesOf_graph⟩,
    fun inner => propertiesOf_nested .graph⟩
  intro hkept inner hinner
  refine nested_ne_graphProperties hinner ?_
  rw [← hkept]
  exact (propertiesOf_nested .graph hinner).symm

def Sample.nestedFields : Fields :=
  [("name", .string "acme"), ("properties", .object [("color", .string "red")]),
    ("_additional", .object [("id", .string "w1")])]

theorem name_lost_beside_nested :
    graphProperties Sample.nestedFields =
      [("name", .string "acme"), ("properties", .object [("color", .string "red")])] ∧
    ∃ r, ofItem? .graph (.object Sample.nestedFields) = some r ∧
      r.properties = [("color", .string "red")] ∧
      r.properties ≠ graphProperties Sample.nestedFields := by
  refine ⟨rfl, ofFields .graph Sample.nestedFields, rfl, rfl, ?_⟩
  exact nested_ne_graphProperties rfl

end Record

end ClusterConsole
