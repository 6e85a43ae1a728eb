import ClusterConsole.Console.Program
import ClusterConsole.Proofs.Console.Course
import ClusterConsole.Proofs.Console.Transcript
import ClusterConsole.Proofs.Engine.Operations
import ClusterConsole.Proofs.Page.Window

/-!
# The pages a listing prints

The transcript of a walk is its course: the requests, each for what is after the last record of the
page before, and one document for each page. A late failure takes back nothing that is printed.
-/

namespace ClusterConsole.Console

open Backend (Failure Reply)
open Engine (Config)
open Json (Value)

/-- The engine of a walk that is about to ask for the page after a place. -/
structure Walking (l : Listing) (c : Connection) (e : Engine) (after : Option String) : Prop where
  target : e.target = some ⟨c, l.className⟩
  filters : e.filters = l.filters
  cursor : e.cursor.id? = after

namespace Walking

variable {l : Listing} {config : Config} {c : Connection} {e : Engine} {after : Option String}
  {p : Payload}

theorem query_eq (h : Walking l c e after) :
    e.query config ⟨c, l.className⟩ = l.query config after := by
  rw [Engine.query, Listing.query, h.filters, h.cursor]

theorem isSearch_eq (h : Walking l c e after) :
    (e.query config ⟨c, l.className⟩).mode.isSearch = l.searches := by
  rw [Engine.query, Query.Mode.select_isSearch, h.filters, Listing.searches]

theorem nextCursor_id? (h : Walking l c e after) (p : Payload) :
    (Engine.nextCursor e.departed.cursor (e.query config ⟨c, l.className⟩) p).id? =
      l.next? config p := by
  rw [Engine.nextCursor, h.isSearch_eq, Listing.next?]
  cases hs : l.searches with
  | false => rfl
  | true =>
    have hactive : e.filters.active.isEmpty = false := by
      rw [h.filters]
      simpa [Listing.searches] using hs
    simp [Engine.departed, hactive, Cursor.id?]

theorem taking (h : Walking l c e after) (p : Payload) :
    Walking l c (e.departed.taking (e.query config ⟨c, l.className⟩) p) (l.next? config p) :=
  ⟨h.target, h.filters, h.nextCursor_id? p⟩

theorem hasMore_eq (h : Walking l c e after) (p : Payload) :
    (e.departed.reportOn (e.query config ⟨c, l.className⟩) p).hasMore =
      (l.next? config p).isSome := by
  rw [← h.nextCursor_id? p, Engine.reportOn]
  cases Engine.nextCursor e.departed.cursor (e.query config ⟨c, l.className⟩) p <;> rfl

theorem pageDocument_eq (h : Walking l c e after) (number : Nat) (p : Payload) :
    pageDocument number (e.departed.reportOn (e.query config ⟨c, l.className⟩) p) =
      l.document config number p := by
  rw [pageDocument, h.hasMore_eq]
  simp only [Engine.reportOn, h.isSearch_eq]
  rfl

end Walking

theorem walk_succ {l : Listing} {config : Config} {c : Connection} {e : Engine}
    {after : Option String} (h : Walking l c e after) (left number : Nat) :
    walk config true (left + 1) number e =
      .ask ((l.query config after).toRequest c config.endpoints) fun reply =>
        match l.payload reply with
        | .error f => .fail (.backend f)
        | .ok p =>
          .print ((l.document config number p).pretty ++ "\n")
            (if (l.next? config p).isSome then
              walk config true left (number + 1)
                (e.departed.taking (e.query config ⟨c, l.className⟩) p)
            else .done (e.departed.taking (e.query config ⟨c, l.className⟩) p)) := by
  have hrequest : (e.fetchFor config ⟨c, l.className⟩).request =
      (l.query config after).toRequest c config.endpoints := by
    rw [Engine.fetchFor, h.query_eq]
  rw [walk, Engine.issue_of_target h.target, ← hrequest]
  refine congrArg (Task.ask _) (funext fun reply => ?_)
  have hpayload : Engine.payloadOf (e.fetchFor config ⟨c, l.className⟩).query reply =
      l.payload reply := rfl
  rw [Task.bind]
  -- nothing comes between a request and its reply, so the ticket is the newest and never stale
  cases hp : l.payload reply with
  | error f => rw [Engine.complete_of_failure rfl (hpayload.trans hp)]
  | ok p =>
    rw [Engine.complete_of_payload rfl (hpayload.trans hp)]
    change Task.print ((pageDocument number (e.departed.reportOn
      (e.query config ⟨c, l.className⟩) p)).pretty ++ "\n") _ = _
    rw [h.pageDocument_eq]
    change Task.print _ (if (e.departed.reportOn (e.query config ⟨c, l.className⟩) p).hasMore then
      _ else _) = _
    rw [h.hasMore_eq]
    rfl

/-- The transcript of a walk is its course: the places asked for, the pages printed, and at the end
a complaint if the last fetch failed. -/
theorem run_walk {l : Listing} {config : Config} {c : Connection} (replies : Nat → Reply)
    (left number k : Nat) {e : Engine} {after : Option String} (h : Walking l c e after) :
    ∃ e', (walk config true left number e).run (scripted replies) k =
      ⟨(Course.of l config replies left k).result e',
        k + (Course.of l config replies left k).size,
        ((Course.of l config replies left k).places l config after).map
          fun place => (l.query config place).toRequest c config.endpoints,
        (Course.of l config replies left k).payloads.mapIdx
          fun i p => (l.document config (number + i) p).pretty ++ "\n"⟩ := by
  -- on the pages left; `Walking` is what a page keeps, with the place that the page goes on after
  induction left generalizing number k e after with
  | zero => exact ⟨e, rfl⟩
  | succ left ih =>
    rw [walk_succ h]
    rcases Course.of_succ_cases l config replies left k with ⟨f, hp, hc⟩ | ⟨p, hp, hnext, hc⟩ |
      ⟨p, id, hp, hnext, hc⟩
    · refine ⟨e, ?_⟩
      simp only [Task.run, scripted, hp, hc]
      rfl
    · refine ⟨e.departed.taking (e.query config ⟨c, l.className⟩) p, ?_⟩
      simp only [Task.run, scripted, hp, hc, hnext]
      rfl
    · have hwalking : Walking l c (e.departed.taking (e.query config ⟨c, l.className⟩) p)
          (l.next? config p) := h.taking p
      obtain ⟨e', hrest⟩ := ih (number + 1) (k + 1) hwalking
      refine ⟨e', ?_⟩
      have hnumber (i : Nat) : number + 1 + i = number + (i + 1) :=
        Nat.succ_add_eq_add_succ number i
      have hserver : k + 1 + (Course.of l config replies left (k + 1)).size =
          k + ((Course.of l config replies left (k + 1)).size + 1) := Nat.succ_add_eq_add_succ k _
      simp only [hnumber, hserver] at hrest
      simp only [Task.run, scripted, hp, hc, hnext, Option.isSome_some, if_true]
      rw [hrest, Course.places_more, Course.size_more, List.mapIdx_cons]
      rfl

theorem walking_engine (l : Listing) (config : Config) (c : Connection) :
    Walking l c (l.engine config c) none := by
  rw [Listing.engine, Engine.setFilters]
  split
  · next h => exact ⟨rfl, h, rfl⟩
  · exact ⟨rfl, rfl, rfl⟩

theorem Listing.run_task {l : Listing} (hdisplay : l.display = .pages) (config : Config)
    (c : Connection) (replies : Nat → Reply) (k : Nat) :
    (l.task config c).run (scripted replies) k =
      ⟨(Course.of l config replies (max l.pages 1).toNat k).result (),
        k + (Course.of l config replies (max l.pages 1).toNat k).size,
        ((Course.of l config replies (max l.pages 1).toNat k).places l config none).map
          fun place => (l.query config place).toRequest c config.endpoints,
        (Course.of l config replies (max l.pages 1).toNat k).payloads.mapIdx
          fun i p => (l.document config (1 + i) p).pretty ++ "\n"⟩ := by
  obtain ⟨e', hrun⟩ := run_walk replies (max l.pages 1).toNat 1 k (walking_engine l config c)
  generalize Course.of l config replies (max l.pages 1).toNat k = course at hrun ⊢
  rw [Listing.task, Task.run_bind, hdisplay, Display.showsPages, hrun]
  cases hfailure : course.failure with
  | none =>
    simp only [Course.result, hfailure, Transcript.andThen, Display.finish, Task.run,
      Transcript.after, List.append_nil]
  | some f => simp only [Course.result, hfailure, Transcript.andThen]

theorem ClusterChoice.resolve_printed (cluster : ClusterChoice) (endpoints : Backend.Endpoints)
    (replies : Nat → Reply) (k : Nat) :
    ((cluster.resolve endpoints).run (scripted replies) k).printed = [] := by
  cases cluster with
  | saved id =>
    change ((Task.ofExcept _).run (scripted replies) (k + 1)).printed = []
    cases (Catalog.getConnection endpoints id).finish (replies k) <;> rfl
  | given c => rfl
  | missing => rfl

/-- The text of a document and a line end. It is read as the document if that has no reals and is
nested no deeper than the reader goes. -/
structure Prints (document : Value) (text : String) : Prop where
  written : ∃ cs, Json.Written document cs ∧ text = String.ofList (cs ++ ['\n'])
  read : document.Readable Json.maxDepth → Json.parse text = .ok document

theorem withLineEnd (cs : List Char) : String.ofList (cs ++ ['\n']) = String.ofList cs ++ "\n" := by
  have hend : "\n" = String.ofList ['\n'] := rfl
  rw [String.ofList_append, hend]

theorem prints_pretty (document : Value) : Prints document (document.pretty ++ "\n") := by
  have hwritten := Json.written_prettyChars 0 document
  refine ⟨⟨_, hwritten, (withLineEnd _).symm⟩, fun h => ?_⟩
  have hread := hwritten.parse_eq h Json.layout_nil Json.layout_lineEnd
  rwa [List.nil_append, withLineEnd] at hread

theorem read_complaint (message : String) :
    Json.parse ((Value.object [("error", .string message)]).text ++ "\n") =
      .ok (.object [("error", .string message)]) := by
  have hreadable : (Value.object [("error", .string message)]).Readable Json.maxDepth := by
    refine ⟨(by decide : ["error"].Nodup), fun f hf => ?_⟩
    rw [List.mem_singleton.1 hf]
    trivial
  have hwritten := Json.written_chars (.object [("error", .string message)])
  have hread := hwritten.parse_eq hreadable Json.layout_nil Json.layout_lineEnd
  rwa [List.nil_append, withLineEnd] at hread

/-- What a listing that shows its pages asks and prints, page by page, over the replies it gets. -/
structure Shown (config : Config) (c : Connection) (l : Listing) (replies : Nat → Reply)
    (asked : List Http.Request) (pages : List Payload) (printed : List String)
    (result : Except Complaint Unit) : Prop where
  asked_pos : 0 < asked.length
  asked_le : asked.length ≤ max l.pages.toNat 1
  payload : ∀ k p, pages[k]? = some p → l.payload (replies k) = .ok p
  documents : ∀ k p, pages[k]? = some p → ∃ text, printed[k]? = some text ∧
    Prints (l.document config (k + 1) p) text
  printed : printed = pages.mapIdx fun k p => (l.document config (k + 1) p).pretty ++ "\n"
  number : ∀ k < pages.length, (k + 1).toUInt64.toNat = k + 1
  first : ∃ r, asked[0]? = some r ∧ r = (l.query config none).toRequest c config.endpoints ∧
    (l.filters.active = [] → Query.Listing config.endpoints r none config.options.fetchPageSize) ∧
    (l.filters.active ≠ [] → r.method = .post ∧
      config.endpoints.Reaches ["objects", "search"] r.url)
  /-- Another request follows only a page that goes on, and names its last record. -/
  next : ∀ k, k + 1 < asked.length → ∃ p last r, pages[k]? = some p ∧
    (l.document config (k + 1) p).field? "hasMore" = some (.bool true) ∧
    p.records.getLast? = some last ∧ asked[k + 1]? = some r ∧
    r = (l.query config (some last.id)).toRequest c config.endpoints ∧
    Query.Listing config.endpoints r (some last.id) config.options.fetchPageSize
  search : l.filters.active ≠ [] → asked.length = 1 ∧ ∀ k p, pages[k]? = some p →
    (l.document config (k + 1) p).field? "capped" = some (.bool true) ∧
    (l.document config (k + 1) p).field? "hasMore" = some (.bool false)
  ended :
    (asked.length = pages.length ∧
      (pages.length = max l.pages.toNat 1 ∨ ∃ p, pages.getLast? = some p ∧
        (l.document config pages.length p).field? "hasMore" = some (.bool false)) ∧
      result = .ok () ∧ endText result = "" ∧ exitCode result = 0) ∨
    ∃ f, asked.length = pages.length + 1 ∧ l.payload (replies pages.length) = .error f ∧
      result = .error (.backend f) ∧
      endText result = (Value.object [("error", .string f.message)]).text ++ "\n" ∧
      Json.parse (endText result) = .ok (.object [("error", .string f.message)]) ∧
      exitCode result = 1

theorem Listing.document_hasMore (l : Listing) (config : Config) (number : Nat) (p : Payload) :
    (l.document config number p).field? "hasMore" = some (.bool (l.next? config p).isSome) := rfl

theorem Listing.document_capped (l : Listing) (config : Config) (number : Nat) (p : Payload) :
    (l.document config number p).field? "capped" = some (.bool l.searches) := rfl

theorem shown_course (l : Listing) (config : Config) (c : Connection) (replies : Nat → Reply)
    (k : Nat) :
    let course := Course.of l config replies (max l.pages 1).toNat k
    Shown config c l (fun i => replies (k + i))
      ((course.places l config none).map fun place =>
        (l.query config place).toRequest c config.endpoints)
      course.payloads
      (course.payloads.mapIdx fun i p => (l.document config (1 + i) p).pretty ++ "\n")
      (course.result ()) := by
  intro course
  have hpages : (max l.pages 1).toNat = max l.pages.toNat 1 := toNat_max l.pages 1
  have hleft : 0 < (max l.pages 1).toNat := hpages ▸ Nat.le_max_right _ 1
  have hpos : 0 < course.size := Course.size_pos hleft
  have hle : course.size ≤ max l.pages.toNat 1 := hpages ▸ Course.size_le
  have hlength : course.payloads.length ≤ course.size := Nat.le_add_right _ _
  refine ⟨?_, ?_, fun i p hp => Course.payload_of_get? hp, ?_, ?_, ?_, ?_, ?_, ?_, ?_⟩
  · rwa [List.length_map, Course.length_places]
  · rwa [List.length_map, Course.length_places]
  · intro i p hp
    refine ⟨_, ?_, prints_pretty _⟩
    rw [List.getElem?_mapIdx, hp, Nat.add_comm 1]
    rfl
  · simp only [Nat.add_comm 1]
  · intro i hi
    have hlimit := l.pages.toNat_lt
    rw [Nat.toUInt64_eq, UInt64.toNat_ofNat', Nat.mod_eq_of_lt]
    omega
  · refine ⟨_, ?_, rfl, ?_, ?_⟩
    · rw [List.getElem?_map, Course.places_get?_zero hpos]
      rfl
    · intro hnone
      exact Query.listing_toRequest (q := l.query config none)
        (Query.Mode.select_listing hnone _) _ _
    · intro hactive
      rw [Query.toRequest_search (q := l.query config none) (Query.Mode.select_search hactive _)]
      exact ⟨rfl, config.endpoints.objectsSearch_reaches⟩
  · intro i hi
    rw [List.length_map, Course.length_places] at hi
    obtain ⟨p, id, hp, hnext⟩ := Course.next?_of_lt_size hi
    obtain ⟨hactive, last, hlast, rfl⟩ := Listing.next?_eq_some hnext
    refine ⟨p, last, _, hp, ?_, hlast, ?_, rfl, ?_⟩
    · rw [Listing.document_hasMore, hnext]
      rfl
    · rw [List.getElem?_map, Course.places_get?_succ hi none hp, hnext]
      rfl
    · exact Query.listing_toRequest (q := l.query config (some last.id))
        (Query.Mode.select_listing hactive _) _ _
  · intro hactive
    refine ⟨?_, fun i p _ => ⟨?_, ?_⟩⟩
    · rw [List.length_map, Course.length_places]
      exact Course.size_of_active hactive hleft
    · rw [Listing.document_capped, Listing.searches_of_active hactive]
    · rw [Listing.document_hasMore, Listing.next?_of_active hactive]
      rfl
  · rw [List.length_map, Course.length_places]
    cases hfailure : course.failure with
    | none =>
      have hresult : course.result () = .ok () := by rw [Course.result, hfailure]
      rw [hresult]
      refine .inl ⟨Course.size_of_done hfailure, ?_, rfl, rfl, rfl⟩
      rcases Course.ended hfailure with hall | ⟨p, hlast, hnext⟩
      · exact .inl (hall.trans hpages)
      · refine .inr ⟨p, hlast, ?_⟩
        rw [Listing.document_hasMore, hnext]
        rfl
    | some f =>
      have hresult : course.result () = .error (.backend f) := by rw [Course.result, hfailure]
      rw [hresult]
      exact .inr ⟨f, Course.size_of_failed hfailure, Course.payload_of_failure hfailure, rfl, rfl,
        read_complaint f.message, rfl⟩

def Sample.interrupted : Nat → Reply
  | 0 => .response (.make 200 "OK" [] (Value.object [("success", .bool true), ("data", .object
      [("objects", .array [.object [("id", .string "a")], .object [("id", .string "b")]])])]).text)
  | _ => .timeout 30000

def Sample.threePages : Listing := ⟨"Widget", .empty, 3, .pages⟩

def Sample.walk : Transcript Nat Unit :=
  ((Command.objects (.given Sample.target.connection) Sample.threePages).task Sample.config).run
    (scripted Sample.interrupted) 0

def Sample.object (id : String) : Value :=
  .object [("id", .string id), ("properties", .object []),
    ("raw_payload", .object [("id", .string id)])]

def Sample.firstPage : Value :=
  .object [("page", .number (.natural 1)), ("searchMode", .bool false), ("capped", .bool false),
    ("hasMore", .bool true), ("total", .number (.natural 2)),
    ("ok", .array [Sample.object "a", Sample.object "b"])]

theorem Sample.firstPage_readable : Sample.firstPage.Readable Json.maxDepth := by
  simp [Sample.firstPage, Sample.object, Value.Readable, Json.maxDepth, Json.Fields.names,
    Json.Number.IsInteger]

end ClusterConsole.Console
