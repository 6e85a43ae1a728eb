import ClusterConsole.Proofs.Catalog.Failures
import ClusterConsole.Proofs.Cluster.Codec
import ClusterConsole.Proofs.Text.Trim

/-!
# Saved connections

The connection that is read from an entry has an id and no needless blanks, and from then on it is
the same however often it is written and read: as its own JSON or as its wire fields, by the reader
of entries or by the decoder of connections.
-/

namespace ClusterConsole

open Json (Fields Value)
open Text (Trimmed)

namespace Connection

variable {fields : Fields} {name text : String} {c : Connection}

theorem entryText?_eq_some_iff :
    entryText? fields name = some text ↔
      ∃ raw, Fields.get? name fields = some (.string raw) ∧ text ≠ "" ∧ Text.trim raw = text :=
  Backend.trimmed_text_eq_some_iff

theorem entryText?_of_absent (h : Fields.get? name fields = none) :
    entryText? fields name = none := by
  simp [entryText?, h]

theorem entryText?_of_trimmed (hget : Fields.get? name fields = some (.string text))
    (h : Trimmed text) : entryText? fields name = if text = "" then none else some text := by
  simp only [entryText?, hget, Option.bind_some, Value.string?, Option.map_some,
    Text.trim_of_trimmed h]
  by_cases hempty : text = "" <;> simp [Option.filter, hempty]

theorem entryText?_getD_of_trimmed (hget : Fields.get? name fields = some (.string text))
    (h : Trimmed text) : (entryText? fields name).getD "" = text := by
  rw [entryText?_of_trimmed hget h]
  split
  · next hempty => exact hempty.symm
  · rfl

theorem ne_empty_of_entryText? (h : entryText? fields name = some text) : text ≠ "" := by
  obtain ⟨raw, -, hne, -⟩ := entryText?_eq_some_iff.1 h
  exact hne

theorem trimmed_of_entryText? (h : entryText? fields name = some text) : Trimmed text := by
  obtain ⟨raw, -, -, rfl⟩ := entryText?_eq_some_iff.1 h
  exact Text.trimmed_trim raw

theorem trimmed_entryText?_getD (fields : Fields) (name : String) :
    Trimmed ((entryText? fields name).getD "") := by
  cases h : entryText? fields name with
  | none => exact Text.trimmed_empty
  | some text => exact trimmed_of_entryText? h

theorem ofEntry?_object (fields : Fields) : ofEntry? (.object fields) = some (ofEntry fields) := rfl

def standIn (c : Connection) : String :=
  if c.name = "" then c.scheme.name ++ "://" ++ c.address else c.name

theorem ofEntry_id (fields : Fields) :
    (ofEntry fields).id = (entryText? fields "id").getD (ofEntry fields).standIn := by
  cases hid : entryText? fields "id" with
  | some id => simp [ofEntry, hid]
  | none =>
    cases hname : entryText? fields "name" with
    | none => simp [ofEntry, standIn, hid, hname]
    | some name => simp [ofEntry, standIn, hid, hname, ne_empty_of_entryText? hname]

theorem trimmed_scheme (s : Scheme) : Trimmed (s.name ++ "://") := by
  cases s <;> exact Text.trimmed_iff.2 (by decide)

theorem standIn_trimmed (hname : Trimmed c.name) (haddress : Trimmed c.address) :
    Trimmed c.standIn := by
  unfold standIn
  split
  · exact (trimmed_scheme c.scheme).append (by simp) haddress
  · exact hname

theorem standIn_ne_empty (c : Connection) : c.standIn ≠ "" := by
  unfold standIn
  split
  · simp
  · assumption

/-- No text has a blank at an end, and neither the id nor the key is empty. -/
structure Normal (c : Connection) : Prop where
  id_ne : c.id ≠ ""
  key_ne : c.apiKey ≠ some ""
  id : Trimmed c.id
  name : Trimmed c.name
  address : Trimmed c.address
  key : ∀ k ∈ c.apiKey, Trimmed k

theorem ofEntry_normal (fields : Fields) : (ofEntry fields).Normal := by
  have hname : Trimmed (ofEntry fields).name := trimmed_entryText?_getD fields "name"
  have haddress : Trimmed (ofEntry fields).address := trimmed_entryText?_getD fields "address"
  have hid : (ofEntry fields).id ≠ "" ∧ Trimmed (ofEntry fields).id := by
    rw [ofEntry_id]
    cases h : entryText? fields "id" with
    | none => exact ⟨standIn_ne_empty _, standIn_trimmed hname haddress⟩
    | some id => exact ⟨ne_empty_of_entryText? h, trimmed_of_entryText? h⟩
  refine ⟨hid.1, ?_, hid.2, hname, haddress, fun k hk => trimmed_of_entryText? hk⟩
  intro hkey
  exact ne_empty_of_entryText? hkey rfl

/-- The fields say what the connection is; only a key that it has not may be left out. -/
structure Spells (fields : Fields) (c : Connection) : Prop where
  id : Fields.get? "id" fields = some (.string c.id)
  name : Fields.get? "name" fields = some (.string c.name)
  scheme : Fields.get? "scheme" fields = some (.string c.scheme.name)
  address : Fields.get? "address" fields = some (.string c.address)
  key : Fields.get? "apiKey" fields = some (.string (c.apiKey.getD "")) ∨
    Fields.get? "apiKey" fields = none ∧ c.apiKey = none

theorem entryScheme_of_name {s : Scheme}
    (h : Fields.get? "scheme" fields = some (.string s.name)) : entryScheme fields = s := by
  have htext : entryText? fields "scheme" = some s.name := by
    rw [entryText?_eq_some_iff]
    refine ⟨s.name, h, ?_⟩
    cases s <;> decide
  rw [entryScheme, htext]
  cases s <;> rfl

theorem Normal.ofEntry_eq (hc : c.Normal) (h : Spells fields c) : ofEntry fields = c := by
  have hid : entryText? fields "id" = some c.id := by
    rw [entryText?_of_trimmed h.id hc.id, if_neg hc.id_ne]
  have hname := entryText?_getD_of_trimmed h.name hc.name
  have haddress := entryText?_getD_of_trimmed h.address hc.address
  have hkey : entryText? fields "apiKey" = c.apiKey := by
    rcases h.key with hkey | ⟨hkey, hnone⟩
    · cases hc' : c.apiKey with
      | none =>
        have hwritten : Fields.get? "apiKey" fields = some (.string "") := by
          rw [hkey, hc']
          rfl
        rw [entryText?_of_trimmed hwritten Text.trimmed_empty, if_pos rfl]
      | some k =>
        have hne : k ≠ "" := fun he => hc.key_ne (he ▸ hc')
        have hwritten : Fields.get? "apiKey" fields = some (.string k) := by
          rw [hkey, hc']
          rfl
        rw [entryText?_of_trimmed hwritten (hc.key k hc'), if_neg hne]
    · rw [entryText?_of_absent hkey, hnone]
  simp only [ofEntry, hid, hname, haddress, hkey, entryScheme_of_name h.scheme, Option.some_or,
    Option.getD_some]

theorem wireFields_spells (c : Connection) : Spells c.wireFields c :=
  ⟨rfl, rfl, rfl, rfl, .inl rfl⟩

theorem toJson_spells (c : Connection) : ∃ fields, c.toJson = .object fields ∧ Spells fields c := by
  refine ⟨_, rfl, rfl, rfl, rfl, rfl, ?_⟩
  cases c.apiKey with
  | none => exact .inr ⟨rfl, rfl⟩
  | some key => exact .inl rfl

theorem Normal.withoutEmptyKey_eq (h : c.Normal) : c.withoutEmptyKey = c := by
  rw [withoutEmptyKey, if_neg h.key_ne]

theorem wireFields_readable (c : Connection) :
    (Value.object c.wireFields).Readable Json.maxDepth := by
  refine ⟨(by decide : ["id", "name", "scheme", "address", "apiKey"].Nodup), ?_⟩
  simp [wireFields, Scheme.toJson, Value.Readable]

theorem toJson_readable (c : Connection) : c.toJson.Readable Json.maxDepth := by
  cases hkey : c.apiKey <;>
    simp [toJson, keyFields, hkey, Scheme.toJson, Value.Readable, Fields.names, Json.maxDepth]

/-- What the catalog makes of an object is a connection in normal form, which every reader gives
back from both of its written forms. The list of connections has one for each object, in order. -/
theorem connections_normalized (e : Backend.Endpoints) :
    (∀ fields, ∃ c, ofEntry? (.object fields) = some c ∧ c.Normal ∧
      ∀ v ∈ [c.toJson, .object c.wireFields],
        Json.parse v.text = .ok v ∧ ofEntry? v = some c ∧ decoder v = .ok c) ∧
    ∀ r items, r.isSuccess = true → r.json = .ok (.array items) →
      (Catalog.listConnections e).finish (.response r) =
        .ok ((items.filterMap Value.fields?).map ofEntry) := by
  constructor
  · intro fields
    have hnormal := ofEntry_normal fields
    refine ⟨ofEntry fields, rfl, hnormal, ?_⟩
    obtain ⟨written, hwritten, hspells⟩ := toJson_spells (ofEntry fields)
    simp only [List.forall_mem_cons]
    refine ⟨⟨Json.parse_text (toJson_readable _), ?_, ?_⟩,
      ⟨Json.parse_text (wireFields_readable _), ?_, ?_⟩, by simp⟩
    · rw [hwritten, ofEntry?_object, hnormal.ofEntry_eq hspells]
    · rw [decoder_toJson, hnormal.withoutEmptyKey_eq]
    · rw [ofEntry?_object, hnormal.ofEntry_eq (wireFields_spells _)]
    · rw [decoder_wireFields, hnormal.withoutEmptyKey_eq]
  · intro r items hstatus hjson
    rw [Catalog.listConnections_finish, Backend.plainBody_of_success hstatus, hjson]
    refine congrArg Except.ok ?_
    exact (List.map_filterMap).symm

def Sample.savedItems : List Value :=
  [.object [("id", .string "\u00a0c1 "), ("name", .string "local"), ("apiKey", .string " ")],
    .string "prod",
    .object [("id", .null), ("name", .string "prod"), ("scheme", .string " HTTPS ")],
    .object [("scheme", .string "ftp"), ("address", .string "h:1\t")]]

def Sample.saved : Http.Response := .make 200 "OK" [] (Value.array Sample.savedItems).text

theorem saved_connections_read :
    Sample.saved.isSuccess = true ∧ Sample.saved.json = .ok (.array Sample.savedItems) ∧
    (Catalog.listConnections ClusterConsole.Sample.config.endpoints).finish
        (.response Sample.saved) =
      .ok [⟨"c1", "local", .http, "", none⟩, ⟨"prod", "prod", .https, "", none⟩,
        ⟨"http://h:1", "", .http, "h:1", none⟩] := by
  have hreadable : (Value.array Sample.savedItems).Readable Json.maxDepth := by
    simp [Sample.savedItems, Value.Readable, Fields.names, Json.maxDepth]
  have hjson : Sample.saved.json = .ok (.array Sample.savedItems) :=
    Http.Response.json_make hreadable 200 "OK" []
  have hread : (Sample.savedItems.filterMap Value.fields?).map ofEntry =
      [⟨"c1", "local", .http, "", none⟩, ⟨"prod", "prod", .https, "", none⟩,
        ⟨"http://h:1", "", .http, "h:1", none⟩] := by
    decide +kernel
  refine ⟨rfl, hjson, ?_⟩
  rw [(connections_normalized _).2 _ _ rfl hjson, hread]

end Connection

end ClusterConsole
