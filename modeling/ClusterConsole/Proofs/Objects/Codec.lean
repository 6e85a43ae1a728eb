import ClusterConsole.Objects.Page
import ClusterConsole.Objects.Payload
import ClusterConsole.Proofs.Cluster.Codec
import ClusterConsole.Proofs.Filter.Codec
import ClusterConsole.Proofs.Time.Millis
import ClusterConsole.Proofs.Time.Rfc3339
import ClusterConsole.Proofs.Transport.Codec

/-!
# Records and pages are read back

What is optional in a record has a field only where it is there, and the names of the fields that
are written are still distinct. An instant is read back unless it is in a leap second, and no
payload has such an instant.
-/

namespace ClusterConsole

open Json (Fields)
open Json.Decoder (Member build_object optional optional_of_ne_null listOf_map fieldsOf_any)

namespace Record

variable {α : Type} {r : Record} {fs : Fields}

theorem decoder_object (hnames : (Fields.names fs).Nodup) (hid : idField.Holds fs r.id)
    (hproperties : propertiesField.Holds fs r.properties) (hvector : vectorField.Holds fs r.vector)
    (hcreated : createdField.Holds fs r.created) (hupdated : updatedField.Holds fs r.updated)
    (hraw : rawField.Holds fs r.raw) : decoder (.object fs) = .ok r := by
  rw [decoder, build_object hnames]
  · rw [ofParts, Member.take_of_holds hid, Member.take_of_holds hproperties,
      Member.take_of_holds hvector, Member.take_of_holds hcreated, Member.take_of_holds hupdated,
      Member.take_of_holds hraw]
    rfl
  · simp only [List.forall_mem_cons]
    exact ⟨hid.passes, hproperties.passes, hvector.passes, hcreated.passes, hupdated.passes,
      hraw.passes, by simp⟩

theorem optionalField_names (name : String) (encode : α → Json.Value) (a : Option α) :
    (Fields.names (optionalField name encode a)).Sublist [name] := by
  cases a with
  | none => exact List.nil_sublist _
  | some a => exact List.Sublist.refl _

theorem get?_optionalField (name other : String) (encode : α → Json.Value) (a : Option α) :
    Fields.get? name (optionalField other encode a) =
      if other = name then a.map encode else none := by
  cases a with
  | none => exact (ite_self _).symm
  | some a => exact Fields.get?_cons name (other, encode a) []

theorem holds_optionalField {m : Member (Option α)} {d : Json.Decoder α} {encode : α → Json.Value}
    {a : Option α} (hread : m.read = optional d) (habsent : m.absent = some none)
    (h : ∀ x ∈ a, d (encode x) = .ok x ∧ (encode x).isNull = false)
    (hget : Fields.get? m.name fs = a.map encode) : m.Holds fs a := by
  cases a with
  | none => exact Member.holds_of_absent hget habsent
  | some x =>
    obtain ⟨hx, hnull⟩ := h x rfl
    exact Member.holds_of_get? hget (hread ▸ optional_of_ne_null hx hnull)

def fields (r : Record) : Fields :=
  [("id", .string r.id), ("properties", .object r.properties)] ++
    optionalField "vector" vectorJson r.vector ++
    optionalField "creation_time" instantJson r.created ++
    optionalField "update_time" instantJson r.updated ++ [("raw_payload", r.raw)]

theorem fields_names (r : Record) :
    (Fields.names r.fields).Sublist
      ["id", "properties", "vector", "creation_time", "update_time", "raw_payload"] := by
  simp only [fields, Fields.names, List.map_append]
  exact ((((List.Sublist.refl ["id", "properties"]).append (optionalField_names _ _ _)).append
    (optionalField_names _ _ _)).append (optionalField_names _ _ _)).append (.refl ["raw_payload"])

theorem vectorDecoder_vectorJson (xs : List Binary64) :
    Json.Decoder.listOf Json.Decoder.real (vectorJson xs) = .ok xs :=
  listOf_map fun _ _ => rfl

theorem instantDecoder_instantJson {t : Time.Instant} (h : t.nano < 1000000000) :
    instantDecoder (instantJson t) = .ok t := by
  rw [instantJson, instantDecoder, t.read_text h]
  rfl

theorem decoder_toJson (hcreated : ∀ t ∈ r.created, t.nano < 1000000000)
    (hupdated : ∀ t ∈ r.updated, t.nano < 1000000000) : decoder r.toJson = .ok r := by
  have hnames : (Fields.names r.fields).Nodup := r.fields_names.nodup (by decide)
  have hvector : Fields.get? "vector" r.fields = r.vector.map vectorJson := by
    simp [fields, Fields.get?_append, Fields.get?_cons, Fields.get?_nil, get?_optionalField]
  have hcreation : Fields.get? "creation_time" r.fields = r.created.map instantJson := by
    simp [fields, Fields.get?_append, Fields.get?_cons, Fields.get?_nil, get?_optionalField]
  have hupdate : Fields.get? "update_time" r.fields = r.updated.map instantJson := by
    simp [fields, Fields.get?_append, Fields.get?_cons, Fields.get?_nil, get?_optionalField]
  have hraw : Fields.get? "raw_payload" r.fields = some r.raw := by
    simp [fields, Fields.get?_append, Fields.get?_cons, get?_optionalField]
  exact decoder_object hnames rfl (fieldsOf_any r.properties)
    (holds_optionalField rfl rfl (fun xs _ => ⟨vectorDecoder_vectorJson xs, rfl⟩) hvector)
    (holds_optionalField rfl rfl
      (fun t ht => ⟨instantDecoder_instantJson (hcreated t ht), rfl⟩) hcreation)
    (holds_optionalField rfl rfl
      (fun t ht => ⟨instantDecoder_instantJson (hupdated t ht), rfl⟩) hupdate)
    (Member.holds_of_get? hraw rfl)

def Normalized (r : Record) : Prop := ∃ shape item, ofItem? shape item = some r

theorem nano_lt_of_instant {v : Option Json.Value} {t : Time.Instant}
    (h : t ∈ v.bind instant?) : t.nano < 1000000000 := by
  obtain ⟨item, -, hitem⟩ := Option.bind_eq_some_iff.1 h
  obtain ⟨n, -, hn⟩ := Option.bind_eq_some_iff.1 hitem
  exact (Time.Instant.isAt_of_ofMillis? hn).no_leap

theorem Normalized.decoder_toJson (h : r.Normalized) : decoder r.toJson = .ok r := by
  obtain ⟨shape, item, hitem⟩ := h
  obtain ⟨fields, -, rfl⟩ := Option.map_eq_some_iff.1 hitem
  exact Record.decoder_toJson (fun _ ht => nano_lt_of_instant ht) fun _ ht => nano_lt_of_instant ht

end Record

namespace Page

variable {p : Page} {fs : Fields}

theorem decoder_object (hnames : (Fields.names fs).Nodup)
    (hrecords : recordsField.Holds fs p.records) (htotal : totalField.Holds fs p.total)
    (hindex : indexField.Holds fs p.pageIndex) (hsize : sizeField.Holds fs p.pageSize) :
    decoder (.object fs) = .ok p := by
  rw [decoder, build_object hnames]
  · rw [ofParts, Member.take_of_holds hrecords, Member.take_of_holds htotal,
      Member.take_of_holds hindex, Member.take_of_holds hsize]
    rfl
  · simp only [List.forall_mem_cons]
    exact ⟨hrecords.passes, htotal.passes, hindex.passes, hsize.passes, by simp⟩

theorem wordDecoder_wordJson (n : UInt64) : wordDecoder (wordJson n) = .ok n := by
  rw [wordDecoder, wordJson, Json.Decoder.natural, if_pos n.toNat_lt]
  exact congrArg Except.ok n.ofNat_toNat

theorem decoder_toJson (h : ∀ r ∈ p.records, r.Normalized) : decoder p.toJson = .ok p :=
  decoder_object (by decide : ["records", "total", "pageIndex", "pageSize"].Nodup)
    (listOf_map fun r hr => (h r hr).decoder_toJson) (wordDecoder_wordJson p.total)
    (wordDecoder_wordJson p.pageIndex) (wordDecoder_wordJson p.pageSize)

end Page

open Transport (BridgeRequest BridgeResponse)

/-- What the data model writes as JSON its decoders read back as it was, but that a connection's
empty key is none. -/
theorem decoders_undo_encoders :
    (∀ f : FilterSet, FilterSet.decoder f.toJson = .ok f) ∧
    (∀ r : BridgeRequest, BridgeRequest.decoder r.toJson = .ok r) ∧
    (∀ r : BridgeResponse, BridgeResponse.decoder r.toJson = .ok r) ∧
    (∀ r : Record, r.Normalized → Record.decoder r.toJson = .ok r) ∧
    (∀ p : Page, (∀ r ∈ p.records, r.Normalized) → Page.decoder p.toJson = .ok p) ∧
    ∀ c : Connection,
      Connection.decoder c.toJson = .ok c.withoutEmptyKey ∧
      Connection.decoder (.object c.wireFields) = .ok c.withoutEmptyKey :=
  ⟨FilterSet.decoder_toJson, BridgeRequest.decoder_toJson, BridgeResponse.decoder_toJson,
    fun _ hr => hr.decoder_toJson, fun _ hp => Page.decoder_toJson hp,
    fun c => ⟨c.decoder_toJson, c.decoder_wireFields⟩⟩

def Sample.aged : Json.Value :=
  .object [("id", .string "x"),
    ("properties", .object [("b", .null), ("a", .string "\u0000")]),
    ("vector", .array [.number (.natural 1)]),
    ("creationTimeUnix", .number (.negative 99999999999998)),
    ("lastUpdateTimeUnix", .string " 253402300800000 ")]

theorem aged_record_read_back :
    ∃ r, Record.ofItem? .rest Sample.aged = some r ∧
      r.created.map (·.chars) = some "-1199-02-15T14:13:20.001Z".toList ∧
      r.updated.map (·.chars) = some "+10000-01-01T00:00:00Z".toList ∧
      Record.decoder r.toJson = .ok r ∧
      Page.decoder (Page.mk [r, r] 7 0 0xFFFFFFFFFFFFFFFF).toJson =
        .ok ⟨[r, r], 7, 0, 0xFFFFFFFFFFFFFFFF⟩ := by
  obtain ⟨-, -, -, hrecord, hpage, -⟩ := decoders_undo_encoders
  have hitem : Record.ofItem? .rest Sample.aged =
      some (Record.ofFields .rest (Sample.aged.fields?.getD [])) := rfl
  refine ⟨_, hitem, ?_, ?_, hrecord _ ⟨_, _, hitem⟩, hpage _ ?_⟩
  · decide +kernel
  · decide +kernel
  · intro r hr
    have hr : r = Record.ofFields .rest (Sample.aged.fields?.getD []) := by simpa using hr
    exact hr ▸ ⟨_, _, hitem⟩

end ClusterConsole
