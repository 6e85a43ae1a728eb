import ClusterConsole.Proofs.Catalog.Entries

/-!
# The id of a connection that is looked up

A connection goes by the id of the answer if that is a text of more than blanks, and by the id it
was asked for if the answer has none. An id that is there and is no such text stands in the way of
the one asked for: the connection then goes by its name, or by its URL.
-/

namespace ClusterConsole.Catalog

open Backend (Endpoints Successful)
open Connection (entryText? ofEntry)
open Http (Response)
open Json (Fields Value)

variable {fields : Fields} {body : Value} {id own : String}

def dataFields (body : Value) : Fields := ((body.field? "data").bind (·.fields?)).getD []

/-- The data has an id that is a text, and this is left of it without the blanks around it. -/
def Owns (body : Value) (own : String) : Prop :=
  ∃ raw, Fields.get? "id" (dataFields body) = some (.string raw) ∧ own ≠ "" ∧ Text.trim raw = own

/-- The data has an id, and it is no text or a blank one. -/
def Spoiled (body : Value) : Prop :=
  Fields.get? "id" (dataFields body) ≠ none ∧ ∀ own, ¬Owns body own

theorem owns_iff : Owns body own ↔ entryText? (dataFields body) "id" = some own :=
  Connection.entryText?_eq_some_iff.symm

theorem entryText?_of_no_owner (h : ∀ own, ¬Owns body own) :
    entryText? (dataFields body) "id" = none :=
  Option.eq_none_iff_forall_ne_some.2 fun own hown => h own (owns_iff.2 hown)

theorem entryText?_withId_of_absent (h : Fields.get? "id" fields = none)
    (hid : Text.trim id ≠ "") : entryText? (withId id fields) "id" = some (Text.trim id) := by
  simp only [withId, h]
  exact Connection.entryText?_eq_some_iff.2 ⟨id, Json.Fields.get?_insert _ _ _, hid, rfl⟩

theorem withId_of_present (h : Fields.get? "id" fields ≠ none) : withId id fields = fields := by
  obtain ⟨v, hv⟩ := Option.ne_none_iff_exists'.1 h
  simp only [withId, hv]

theorem present_of_owns (h : Owns body own) : Fields.get? "id" (dataFields body) ≠ none := by
  obtain ⟨raw, hraw, -⟩ := h
  simp [hraw]

theorem connectionOf_eq (id : String) (body : Value) :
    connectionOf id body = ofEntry (withId id (dataFields body)) := rfl

theorem connectionOf_id_of_owns (h : Owns body own) : (connectionOf id body).id = own := by
  rw [connectionOf_eq, withId_of_present (present_of_owns h), Connection.ofEntry_id, owns_iff.1 h]
  rfl

theorem connectionOf_id_of_absent (h : Fields.get? "id" (dataFields body) = none)
    (hid : Text.trim id ≠ "") : (connectionOf id body).id = Text.trim id := by
  rw [connectionOf_eq, Connection.ofEntry_id, entryText?_withId_of_absent h hid]
  rfl

theorem connectionOf_id_of_spoiled (h : Spoiled body) :
    (connectionOf id body).id = (connectionOf id body).standIn := by
  rw [connectionOf_eq, withId_of_present h.1, Connection.ofEntry_id, entryText?_of_no_owner h.2]
  rfl

/-- A lookup gives a connection that goes by the answer's own id if there is one. If there is none,
it goes by the id that was asked for, but where the answer's id is spoiled its name or its URL
stands in: then it has the id that was asked for by chance only. -/
theorem lookup_id_iff (e : Endpoints) (hid : Text.trim id ≠ "") {r : Response}
    (h : Successful r body) :
    ∃ c, (getConnection e id).finish (.response r) = .ok c ∧
      (∀ own, Owns body own → c.id = own) ∧
      ((∀ own, ¬Owns body own) →
        (c.id = Text.trim id ↔ ¬Spoiled body ∨ c.standIn = Text.trim id)) ∧
      (Spoiled body → c.id = c.standIn) := by
  refine ⟨connectionOf id body, enveloped_finish_of_successful h _ _,
    fun own hown => connectionOf_id_of_owns hown, ?_, connectionOf_id_of_spoiled⟩
  intro hnone
  by_cases hspoiled : Spoiled body
  · rw [connectionOf_id_of_spoiled hspoiled]
    exact ⟨.inr, fun hor => hor.resolve_left (not_not_intro hspoiled)⟩
  · have habsent : Fields.get? "id" (dataFields body) = none := by
      refine Decidable.byContradiction fun hpresent => hspoiled ⟨hpresent, hnone⟩
    exact iff_of_true (connectionOf_id_of_absent habsent hid) (.inl hspoiled)

def Sample.unnumbered : Value := .object [("name", .string "prod"), ("address", .string "h:1")]

theorem asked_id_kept :
    Successful (Sample.answer Sample.unnumbered) (Sample.envelope Sample.unnumbered) ∧
    Text.trim " c1\u00a0" = "c1" ∧
    ∃ c, (getConnection ClusterConsole.Sample.config.endpoints " c1\u00a0").finish
        (.response (Sample.answer Sample.unnumbered)) = .ok c ∧ c.id = "c1" := by
  have htrim : Text.trim " c1\u00a0" = "c1" := by decide
  have hsuccess := Sample.answer_successful Sample.unnumbered
    (by simp [Sample.unnumbered, Value.Readable, Fields.names])
  have hnone : ∀ own, ¬Owns (Sample.envelope Sample.unnumbered) own := by
    rintro own ⟨raw, hraw, -⟩
    cases hraw
  have hwhole : ¬Spoiled (Sample.envelope Sample.unnumbered) := fun hspoiled => hspoiled.1 rfl
  have hasked : Text.trim " c1\u00a0" ≠ "" := by
    rw [htrim]
    decide
  obtain ⟨c, hfinish, -, hid, -⟩ :=
    lookup_id_iff ClusterConsole.Sample.config.endpoints hasked hsuccess
  exact ⟨hsuccess, htrim, c, hfinish, ((hid hnone).2 (.inl hwhole)).trans htrim⟩

def Sample.nullId : Value :=
  .object [("id", .null), ("name", .string "prod"), ("address", .string "h:1")]

/-- An answer whose id is null gives a connection that goes by its name and not by the id asked for.
-/
theorem null_id_hides_asked :
    Successful (Sample.answer Sample.nullId) (Sample.envelope Sample.nullId) ∧
    Text.trim "c1" = "c1" ∧ (∀ own, ¬Owns (Sample.envelope Sample.nullId) own) ∧
    (getConnection ClusterConsole.Sample.config.endpoints "c1").finish
      (.response (Sample.answer Sample.nullId)) = .ok ⟨"prod", "prod", .http, "h:1", none⟩ := by
  have hsuccess := Sample.answer_successful Sample.nullId
    (by simp [Sample.nullId, Value.Readable, Fields.names])
  refine ⟨hsuccess, by decide, ?_, ?_⟩
  · rintro own ⟨raw, hraw, -⟩
    cases hraw
  · exact enveloped_finish_of_successful hsuccess _ _

end ClusterConsole.Catalog
