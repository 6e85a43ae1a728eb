import ClusterConsole.Objects.Payload

/-!
# Which id a record has

An object gives its id in its metadata or beside its properties, as a text that is not empty or as a
number. The one in the metadata comes first, and hides the other even where it cannot be used,
unless it is null. The record then has the sentinel, as it has where there is no id at all or where
the id is the sentinel's own text.
-/

namespace ClusterConsole

namespace Json.Value

/-- What can be used as an id, and the text that it is as one. -/
inductive Names : Value → String → Prop where
  | string {s : String} (h : s ≠ "") : Names (.string s) s
  | number (n : Number) : Names (.number n) n.text

end Json.Value

namespace Record

open Json (Value Fields)

variable {fields : Fields} {shape : Shape} {v : Value} {text : String}

def nested? (fields : Fields) (name : String) : Option Value :=
  (Fields.get? "_additional" fields).bind (·.field? name)

/-- An object's id by its usable ones, of which that in the metadata comes first. -/
inductive Gives (fields : Fields) : String → Prop where
  | nested {v : Value} {text : String} (h : nested? fields "id" = some v) (hv : v.Names text) :
    Gives fields text
  | own {v : Value} {text : String}
    (hnested : ∀ v text, nested? fields "id" = some v → ¬v.Names text)
    (h : Fields.get? "id" fields = some v) (hv : v.Names text) : Gives fields text

/-- The metadata have an id that is not null and yet of no use. -/
def Hides (fields : Fields) : Prop :=
  ∃ v, nested? fields "id" = some v ∧ v.isNull = false ∧ ∀ text, ¬v.Names text

theorem idText?_eq_some_iff : idText? v = some text ↔ v.Names text := by
  refine ⟨?_, ?_⟩
  · intro h
    cases v with
    | string s =>
      by_cases hs : s = ""
      · rw [idText?, if_pos hs] at h
        cases h
      · rw [idText?, if_neg hs] at h
        cases h
        exact .string hs
    | number n =>
      cases h
      exact .number n
    | null => cases h
    | bool b => cases h
    | array vs => cases h
    | object fs => cases h
  · intro h
    cases h with
    | string hs => rw [idText?, if_neg hs]
    | number n => rfl

theorem idText?_eq_none_iff : idText? v = none ↔ ∀ text, ¬v.Names text := by
  simp only [Option.eq_none_iff_forall_ne_some, ne_eq, idText?_eq_some_iff]

theorem not_names_of_isNull (h : v.isNull = true) : ¬v.Names text := by
  intro hv
  cases hv <;> cases h

theorem metadata_cases (fields : Fields) (name : String) :
    (∃ v, nested? fields name = some v ∧ v.isNull = false ∧ metadata fields name = some v) ∨
    ((∀ v, nested? fields name = some v → v.isNull = true) ∧
      metadata fields name = Fields.get? name fields) := by
  cases hkept : (nested? fields name).filter (!·.isNull) with
  | some v =>
    obtain ⟨hnested, hnull⟩ := Option.filter_eq_some_iff.1 hkept
    refine .inl ⟨v, hnested, by simpa using hnull, ?_⟩
    rw [nested?] at hkept
    rw [metadata, hkept]
  | none =>
    have hnull := Option.filter_eq_none_iff.1 hkept
    refine .inr ⟨fun v hv => by simpa using hnull v hv, ?_⟩
    rw [nested?] at hkept
    rw [metadata, hkept]

theorem ofFields_id_of_names (h : metadata fields "id" = some v) (hv : v.Names text) :
    (ofFields shape fields).id = text := by
  simp only [ofFields, h, Option.bind_some, idText?_eq_some_iff.2 hv, Option.getD_some]

theorem id_of_hides (h : Hides fields) : (ofFields shape fields).id = sentinel := by
  obtain ⟨v, hnested, hnull, hnames⟩ := h
  rcases metadata_cases fields "id" with ⟨w, hw, -, hmetadata⟩ | ⟨hall, -⟩
  · rw [hnested] at hw
    cases hw
    simp only [ofFields, hmetadata, Option.bind_some, idText?_eq_none_iff.2 hnames,
      Option.getD_none]
  · rw [hall v hnested] at hnull
    cases hnull

theorem id_of_gives (h : Gives fields text) (hhides : ¬Hides fields) :
    (ofFields shape fields).id = text := by
  cases h with
  | nested hnested hv =>
    rcases metadata_cases fields "id" with ⟨w, hw, -, hmetadata⟩ | ⟨hall, -⟩
    · rw [hnested] at hw
      cases hw
      exact ofFields_id_of_names hmetadata hv
    · exact absurd hv (not_names_of_isNull (hall _ hnested))
  | own hnested hown hv =>
    rcases metadata_cases fields "id" with ⟨w, hw, hnull, -⟩ | ⟨-, hmetadata⟩
    · exact absurd ⟨w, hw, hnull, fun text => hnested w text hw⟩ hhides
    · exact ofFields_id_of_names (hmetadata.trans hown) hv

theorem gives_of_id_ne (h : (ofFields shape fields).id ≠ sentinel) :
    Gives fields (ofFields shape fields).id := by
  cases hchosen : (metadata fields "id").bind idText? with
  | none => simp [ofFields, hchosen] at h
  | some text =>
    obtain ⟨v, hmetadata, htext⟩ := Option.bind_eq_some_iff.1 hchosen
    have hv := idText?_eq_some_iff.1 htext
    rw [ofFields_id_of_names hmetadata hv]
    rcases metadata_cases fields "id" with ⟨w, hw, -, hnested⟩ | ⟨hall, hown⟩
    · rw [hmetadata] at hnested
      cases hnested
      exact .nested hw hv
    · exact .own (fun w text hw => not_names_of_isNull (hall w hw)) (hown ▸ hmetadata) hv

/-- The record of an object has an id of the backend's if and only if the object gives one that is
not the sentinel's text and is not hidden by a useless one in the metadata. It has the id that is
given unless that is hidden. -/
theorem backend_id_iff (shape : Shape) (fields : Fields) :
    ∃ r, ofItem? shape (.object fields) = some r ∧
      (r.hasBackendId = true ↔ ∃ text, Gives fields text ∧ text ≠ sentinel ∧ ¬Hides fields) ∧
      (∀ text, Gives fields text → ¬Hides fields → r.id = text) ∧
      (Hides fields → r.id = sentinel) := by
  have hid : (ofFields shape fields).hasBackendId = true ↔
      (ofFields shape fields).id ≠ sentinel := by
    rw [hasBackendId, bne_iff_ne]
  refine ⟨ofFields shape fields, rfl, ?_, fun text => id_of_gives, id_of_hides⟩
  rw [hid]
  refine ⟨?_, ?_⟩
  · intro hne
    exact ⟨_, gives_of_id_ne hne, hne, fun hhides => hne (id_of_hides hhides)⟩
  · rintro ⟨text, hgives, hne, hhides⟩
    rwa [id_of_gives hgives hhides]

def Sample.hiddenFields : Fields :=
  [("id", .string "w1"), ("properties", .object [("name", .string "acme")]),
    ("_additional", .object [("id", .string "")])]

theorem own_id_hidden :
    Gives Sample.hiddenFields "w1" ∧
    ∃ r, ofItem? .rest (.object Sample.hiddenFields) = some r ∧ r.hasBackendId = false ∧
      r.id = sentinel := by
  refine ⟨?_, ofFields .rest Sample.hiddenFields, rfl, rfl, rfl⟩
  apply Gives.own (v := .string "w1")
  · rintro v text h hv
    cases h
    cases hv with
    | string hs => exact hs rfl
  · rfl
  · exact .string (by decide)

example : (ofFields .rest [("id", .string "-")]).hasBackendId = false := by decide

end Record

end ClusterConsole
