import ClusterConsole.Objects.Query
import ClusterConsole.Proofs.Backend.BasePath
import ClusterConsole.Proofs.Filter.Codec
import ClusterConsole.Proofs.Json.RoundTrip

/-!
# What a query asks for

The body of a query is read back from its request, and names the place to continue from. Whatever
the texts in it are, they are decoded as they were.
-/

namespace ClusterConsole

open Json (Value)

theorem Http.Request.jsonBody?_postJson {body : Value} (h : body.Readable Json.maxDepth)
    (url : String) : (postJson url body).jsonBody? = some body := by
  rw [postJson, jsonBody?, Option.bind_some, Json.parse_text h]
  rfl

theorem Http.Response.json_make {body : Value} (h : body.Readable Json.maxDepth)
    (status : UInt16) (reason : String) (headers : List (String × String)) :
    (make status reason headers body.text).json = .ok body := by
  rw [json, make, Json.parse_text h]
  rfl

theorem Filter.Predicate.toJson_readable (n : Nat) (p : Filter.Predicate) :
    p.toJson.Readable (n + 1) := by
  refine ⟨(by decide : ["property", "operator", "value"].Nodup), ?_⟩
  intro f hf
  simp only [List.mem_cons, List.not_mem_nil, or_false] at hf
  rcases hf with rfl | rfl | rfl <;> cases n <;> trivial

namespace Query

variable {q : Query} {after : Option String}

theorem body_readable (q : Query) (c : Connection) : (q.body c).Readable Json.maxDepth := by
  obtain ⟨className, limit, mode⟩ := q
  refine ⟨?_, ?_⟩
  · cases mode with
    | listing after =>
      cases after <;>
        exact (by decide : ["id", "name", "scheme", "address", "apiKey", "className", "limit",
          "after"].Nodup)
    | search ps logic =>
      exact (by decide : ["id", "name", "scheme", "address", "apiKey", "className", "limit",
        "filters", "logic"].Nodup)
  · intro f hf
    rcases List.mem_append.1 hf with hf | hf
    · simp only [Connection.wireFields, List.cons_append, List.nil_append, List.mem_cons,
        List.not_mem_nil, or_false] at hf
      rcases hf with rfl | rfl | rfl | rfl | rfl | rfl | rfl <;> trivial
    · cases mode with
      | listing after =>
        cases after <;> rw [List.mem_singleton.1 hf] <;> trivial
      | search ps logic =>
        simp only [Mode.fields, List.mem_cons, List.not_mem_nil, or_false] at hf
        rcases hf with rfl | rfl
        · intro v hv
          obtain ⟨p, -, rfl⟩ := List.mem_map.1 hv
          exact p.toJson_readable _
        · trivial

theorem jsonBody?_toRequest (q : Query) (c : Connection) (e : Backend.Endpoints) :
    (q.toRequest c e).jsonBody? = some (q.body c) :=
  Http.Request.jsonBody?_postJson (q.body_readable c) _

theorem toRequest_listing (h : q.mode = .listing after) (c : Connection)
    (e : Backend.Endpoints) : q.toRequest c e = .postJson e.objectsQuery (q.body c) := by
  simp [toRequest, endpoint, h]

theorem toRequest_search {ps : List Filter.Predicate} {logic : Filter.Logic}
    (h : q.mode = .search ps logic) (c : Connection) (e : Backend.Endpoints) :
    q.toRequest c e = .postJson e.objectsSearch (q.body c) := by
  simp [toRequest, endpoint, h]

theorem body_limit (q : Query) (c : Connection) :
    (q.body c).field? "limit" = some (.number (.natural q.limit)) := by
  simp [body, Connection.wireFields, Value.field?, Json.Fields.get?]

theorem body_after_listing (h : q.mode = .listing after) (c : Connection) :
    (q.body c).field? "after" = some (after.elim .null .string) := by
  cases after <;>
    simp [body, h, Connection.wireFields, Mode.fields, Value.field?, Json.Fields.get?]

/-- The request asks for so many objects after an id, or from the beginning. -/
structure Listing (e : Backend.Endpoints) (r : Http.Request) (after : Option String)
    (limit : UInt64) : Prop where
  method : r.method = .post
  url : r.url = e.objectsQuery
  address : e.Reaches ["objects", "query"] r.url
  body : ∃ body, r.jsonBody? = some body ∧
    body.field? "limit" = some (.number (.natural limit)) ∧
    body.field? "after" = some (after.elim .null .string)

theorem listing_toRequest (h : q.mode = .listing after) (c : Connection)
    (e : Backend.Endpoints) : Listing e (q.toRequest c e) after q.limit := by
  have hrequest := toRequest_listing h c e
  have hurl : (q.toRequest c e).url = e.objectsQuery := by
    rw [hrequest]
    rfl
  refine ⟨?_, hurl, hurl ▸ e.objectsQuery_reaches, q.body c, q.jsonBody?_toRequest c e,
    q.body_limit c, body_after_listing h c⟩
  rw [hrequest]
  rfl

theorem Mode.select_isSearch (f : FilterSet) (after : Option String) :
    (select f after).isSearch = !f.active.isEmpty := by
  by_cases h : f.active.isEmpty <;> simp [select, isSearch, h]

theorem Mode.select_listing {f : FilterSet} (h : f.active = []) (after : Option String) :
    select f after = .listing after := by
  simp [select, h]

theorem Mode.select_search {f : FilterSet} (h : f.active ≠ []) (after : Option String) :
    select f after = .search f.active f.logic := by
  simp [select, h]

theorem decode_after (h : q.mode = .listing after) (c : Connection) :
    ((q.body c).field? "after").map (Json.Decoder.optional Json.Decoder.string) =
      some (.ok after) := by
  rw [body_after_listing h]
  cases after <;> rfl

theorem decode_filters {ps : List Filter.Predicate} {logic : Filter.Logic}
    (h : q.mode = .search ps logic) (c : Connection) :
    ((q.body c).field? "filters").map (Json.Decoder.listOf Filter.Predicate.decoder) =
        some (.ok ps) ∧
      ((q.body c).field? "logic").map Filter.Logic.decoder = some (.ok logic) := by
  have hfilters : (q.body c).field? "filters" = some (FilterSet.predicatesJson ps) := by
    simp [body, h, Connection.wireFields, Mode.fields, Value.field?, Json.Fields.get?]
  have hlogic : (q.body c).field? "logic" = some logic.toJson := by
    simp [body, h, Connection.wireFields, Mode.fields, Value.field?, Json.Fields.get?]
  rw [hfilters, hlogic]
  exact ⟨congrArg some (FilterSet.decoder_predicatesJson ps), congrArg some logic.decoder_toJson⟩

/-- The text that a request carries is read as the query's body, field for field, and the cursor or
the predicates and their logic are decoded from it as the query has them. -/
theorem request_read_back (q : Query) (c : Connection) (e : Backend.Endpoints) :
    ∃ text body, (q.toRequest c e).body = some text ∧ Json.parse text = .ok body ∧
      (q.toRequest c e).jsonBody? = some body ∧ body = q.body c ∧
      match q.mode with
      | .listing after =>
        (body.field? "after").map (Json.Decoder.optional Json.Decoder.string) = some (.ok after)
      | .search predicates logic =>
        (body.field? "filters").map (Json.Decoder.listOf Filter.Predicate.decoder) =
            some (.ok predicates) ∧
          (body.field? "logic").map Filter.Logic.decoder = some (.ok logic) := by
  refine ⟨(q.body c).text, q.body c, rfl, Json.parse_text (q.body_readable c),
    q.jsonBody?_toRequest c e, rfl, ?_⟩
  cases h : q.mode with
  | listing after => exact decode_after h c
  | search predicates logic => exact decode_filters h c

end Query

end ClusterConsole
