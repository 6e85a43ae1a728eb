import ClusterConsole.Filter.FilterSet
import ClusterConsole.Proofs.Json.Decoder

/-!
# Filters are read back

What a filter set, a predicate, an operator or a logic is written as in JSON is read as the same.
-/

namespace ClusterConsole

open Json (Fields)
open Json.Decoder (Member build_object)

namespace Filter

theorem Operator.decoder_toJson (o : Operator) : Operator.decoder o.toJson = .ok o := by
  cases o <;> rfl

theorem Logic.decoder_toJson (l : Logic) : Logic.decoder l.toJson = .ok l := by
  cases l <;> rfl

theorem Predicate.decoder_object {p : Predicate} {fs : Fields} (hnames : (Fields.names fs).Nodup)
    (hproperty : propertyField.Holds fs p.property) (hoperator : operatorField.Holds fs p.operator)
    (hvalue : valueField.Holds fs p.value) : decoder (.object fs) = .ok p := by
  rw [decoder, build_object hnames]
  · rw [ofParts, Member.take_of_holds hproperty, Member.take_of_holds hoperator,
      Member.take_of_holds hvalue]
    rfl
  · simp only [List.forall_mem_cons]
    exact ⟨hproperty.passes, hoperator.passes, hvalue.passes, by simp⟩

theorem Predicate.decoder_toJson (p : Predicate) : Predicate.decoder p.toJson = .ok p :=
  decoder_object (by decide : ["property", "operator", "value"].Nodup) rfl
    p.operator.decoder_toJson rfl

end Filter

namespace FilterSet

theorem decoder_predicatesJson (ps : List Filter.Predicate) :
    Json.Decoder.listOf Filter.Predicate.decoder (predicatesJson ps) = .ok ps :=
  Json.Decoder.listOf_map fun p _ => p.decoder_toJson

theorem decoder_object {f : FilterSet} {fs : Fields} (hnames : (Fields.names fs).Nodup)
    (hpredicates : predicatesField.Holds fs f.predicates) (hlogic : logicField.Holds fs f.logic) :
    decoder (.object fs) = .ok f := by
  rw [decoder, build_object hnames]
  · rw [ofParts, Member.take_of_holds hpredicates, Member.take_of_holds hlogic]
    rfl
  · simp only [List.forall_mem_cons]
    exact ⟨hpredicates.passes, hlogic.passes, by simp⟩

theorem decoder_toJson (f : FilterSet) : decoder f.toJson = .ok f :=
  decoder_object (by decide : ["predicates", "logic"].Nodup)
    (decoder_predicatesJson f.predicates) f.logic.decoder_toJson

end FilterSet

end ClusterConsole
