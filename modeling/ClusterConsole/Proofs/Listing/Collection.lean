import ClusterConsole.Objects.Engine
import ClusterConsole.Proofs.Objects.Query

/-!
# Collections behind a backend

A collection is what a backend lists page by page. A faithful backend answers a request for a page
with the objects that come after the one of the given id, as many as were asked for.
-/

namespace ClusterConsole

open Backend (Endpoints Reply)
open Json (Fields Value)

def idOf? (o : Fields) : Option String := (Fields.get? "id" o).bind (·.string?)

structure Collection where
  objects : List Fields
  named : ∀ o ∈ objects, ∃ id, idOf? o = some id ∧ id ≠ "" ∧ id ≠ Record.sentinel
  plain : ∀ o ∈ objects, Fields.get? "_additional" o = none
  distinct : (objects.map idOf?).Nodup

/-- The response has these objects as its listing and no items anywhere else. -/
structure Answers (r : Http.Response) (objects : List Fields) : Prop where
  status : r.status = 200
  body : ∃ body, r.json = .ok body ∧ body.field? "success" = some (.bool true) ∧
    body.at? ["data", "result", "objects"] = some (.array (objects.map .object)) ∧
    Payload.itemsOf (body.at? ["data", "objects"]) = none ∧
    ∀ className, Payload.itemsOf (Payload.located body className .graph) = none

theorem ofFields_id {o : Fields} {id : String} (hid : idOf? o = some id) (hne : id ≠ "")
    (hplain : Fields.get? "_additional" o = none) : (Record.ofFields .rest o).id = id := by
  obtain ⟨v, hv, hs⟩ := Option.bind_eq_some_iff.1 hid
  cases v with
  | string s =>
    have he : s = id := Option.some.inj hs
    have hmeta : Record.metadata o "id" = some (.string s) := by
      simp [Record.metadata, hplain, hv]
    simp [Record.ofFields, hmeta, Record.idText?, he, hne]
  | null => cases hs
  | bool b => cases hs
  | number n => cases hs
  | array vs => cases hs
  | object fs => cases hs

namespace Collection

variable {c : Collection}

def after (c : Collection) : Option String → List Fields
  | none => c.objects
  | some id => (c.objects.dropWhile fun o => idOf? o ≠ some id).tail

def Faithful (c : Collection) (e : Endpoints) (backend : Http.Request → Http.Response) : Prop :=
  ∀ r after limit, Query.Listing e r after limit →
    Answers (backend r) ((c.after after).take limit.toNat)

theorem after_suffix (c : Collection) (place : Option String) : c.after place <:+ c.objects := by
  cases place with
  | none => exact List.suffix_refl _
  | some id => exact (List.tail_suffix _).trans (List.dropWhile_suffix _)

theorem after_of_split {front back : List Fields} {o : Fields} {id : String}
    (h : c.objects = front ++ o :: back) (hid : idOf? o = some id) : c.after (some id) = back := by
  have hdistinct := c.distinct
  rw [h, List.map_append, List.map_cons] at hdistinct
  have hfront : ∀ p ∈ front, idOf? p ≠ some id := by
    intro p hp he
    have hne := (List.nodup_append.1 hdistinct).2.2 (idOf? p) (List.mem_map_of_mem hp) (idOf? o)
      (.head _)
    exact hne (he.trans hid.symm)
  rw [after, h, List.dropWhile_append_of_pos (fun p hp => by simpa using hfront p hp),
    List.dropWhile_cons_of_neg (by simpa using hid), List.tail_cons]

theorem page_end {rest : List Fields} {size : Nat} (h : rest <:+ c.objects) (hsize : 0 < size)
    (hfull : size ≤ rest.length) :
    ∃ o, (rest.take size).getLast? = some o ∧ (Record.ofFields .rest o).hasBackendId ∧
      c.after (some (Record.ofFields .rest o).id) = rest.drop size := by
  obtain ⟨front, hfront⟩ := h
  have hne : rest.take size ≠ [] := by
    intro hnil
    have hlength := congrArg List.length hnil
    rw [List.length_take, List.length_nil] at hlength
    omega
  have hpage := List.dropLast_concat_getLast hne
  generalize (rest.take size).dropLast = start at hpage
  generalize hlast : (rest.take size).getLast hne = o at hpage
  have hsplit : c.objects = (front ++ start) ++ o :: rest.drop size := by
    calc c.objects = front ++ (rest.take size ++ rest.drop size) := by
          rw [List.take_append_drop, hfront]
      _ = (front ++ start) ++ o :: rest.drop size := by
          rw [← hpage]
          simp
  have hmem : o ∈ c.objects := by
    rw [hsplit]
    exact List.mem_append_right _ (.head _)
  obtain ⟨id, hid, hne', hgiven⟩ := c.named o hmem
  have hname := ofFields_id hid hne' (c.plain o hmem)
  refine ⟨o, ?_, ?_, ?_⟩
  · rw [List.getLast?_eq_some_getLast hne, hlast]
  · simpa [Record.hasBackendId, hname] using hgiven
  · rw [hname]
    exact after_of_split hsplit hid

end Collection

theorem openEnvelope_answer {r : Http.Response} {objects : List Fields} (h : Answers r objects) :
    ∃ body, Backend.openEnvelope r = .ok body ∧ ∀ className,
      Payload.ofBody body className =
        ⟨if objects = [] then none else some .rest, objects.map (Record.ofFields .rest),
          objects.length⟩ := by
  obtain ⟨body, hjson, hsuccess, hlisting, hformatted, hgraph⟩ := h.body
  have hstatus : r.isSuccess = true := by
    rw [Http.Response.isSuccess, h.status]
    rfl
  refine ⟨body, ?_, ?_⟩
  · simp [Backend.openEnvelope, hjson, hstatus, Backend.reportsSuccess, hsuccess]
  · intro className
    have hformatted' : Payload.itemsOf (Payload.located body className .formatted) = none :=
      hformatted
    have hrest : Payload.located body className .rest = some (.array (objects.map .object)) :=
      hlisting
    cases objects with
    | nil =>
      have hnone : Payload.itemsOf (Payload.located body className .rest) = none := by
        rw [hrest]
        rfl
      have hfind : Payload.find? body className = none := by
        simp [Payload.find?, Shape.order, hformatted', hnone, hgraph]
      simp [Payload.ofBody, hfind]
    | cons o os =>
      have hsome : Payload.itemsOf (Payload.located body className .rest) =
          some ((o :: os).map .object) := by
        rw [hrest]
        rfl
      have hfind : Payload.find? body className = some (.rest, (o :: os).map .object) := by
        simp [Payload.find?, Shape.order, hformatted', hsome]
      have hrecords : ((o :: os).map Value.object).filterMap (Record.ofItem? .rest) =
          (o :: os).map (Record.ofFields .rest) := by
        rw [List.filterMap_map, ← List.filterMap_eq_map]
        rfl
      simp only [Payload.ofBody, hfind, hrecords, List.length_map]
      rfl

def asked? (r : Http.Request) : Option (Option String × UInt64) :=
  r.jsonBody?.bind fun body =>
    match body.field? "limit", body.field? "after" with
    | some (.number (.natural limit)), some .null => some (none, limit)
    | some (.number (.natural limit)), some (.string id) => some (some id, limit)
    | _, _ => none

theorem asked?_of_listing {e : Endpoints} {r : Http.Request} {after : Option String}
    {limit : UInt64} (h : Query.Listing e r after limit) : asked? r = some (after, limit) := by
  obtain ⟨body, hbody, hlimit, hafter⟩ := h.body
  rw [asked?, hbody, Option.bind_some, hlimit, hafter]
  cases after <;> rfl

def listingJson (objects : List Fields) : Value :=
  .object [("success", .bool true),
    ("data", .object [("result", .object [("objects", .array (objects.map .object))])])]

def listingAnswer (objects : List Fields) : Http.Response :=
  .make 200 "OK" [] (listingJson objects).text

def answerDepth : Nat := Json.maxDepth - 4

theorem listingJson_readable {objects : List Fields}
    (h : ∀ o ∈ objects, (Value.object o).Readable answerDepth) :
    (listingJson objects).Readable Json.maxDepth := by
  have harray : (Value.array (objects.map .object)).Readable (answerDepth + 1) := by
    intro v hv
    obtain ⟨o, ho, rfl⟩ := List.mem_map.1 hv
    exact h o ho
  have hone : ∀ {n : Nat} {name : String} {v : Value}, v.Readable n →
      (Value.object [(name, v)]).Readable (n + 1) := by
    intro n name v hv
    refine ⟨List.pairwise_singleton _ name, ?_⟩
    intro f hf
    rw [List.mem_singleton.1 hf]
    exact hv
  refine ⟨(by decide : ["success", "data"].Nodup), ?_⟩
  intro f hf
  simp only [List.mem_cons, List.not_mem_nil, or_false] at hf
  rcases hf with rfl | rfl
  · trivial
  · exact hone (hone harray)

theorem listingAnswer_answers {objects : List Fields}
    (h : ∀ o ∈ objects, (Value.object o).Readable answerDepth) :
    Answers (listingAnswer objects) objects := by
  have hjson : (listingAnswer objects).json = .ok (listingJson objects) :=
    Http.Response.json_make (listingJson_readable h) 200 "OK" []
  exact ⟨rfl, listingJson objects, hjson, rfl, rfl, rfl, fun _ => rfl⟩

def Collection.serve (c : Collection) (r : Http.Request) : Http.Response :=
  match asked? r with
  | some (after, limit) => listingAnswer ((c.after after).take limit.toNat)
  | none => .make 400 "Bad Request" [] ""

theorem Collection.serve_faithful {c : Collection}
    (h : ∀ o ∈ c.objects, (Value.object o).Readable answerDepth) (e : Endpoints) :
    c.Faithful e c.serve := by
  intro r place limit hr
  rw [serve, asked?_of_listing hr]
  refine listingAnswer_answers fun o ho => h o ?_
  exact (c.after_suffix place).mem (List.mem_of_mem_take ho)

end ClusterConsole
