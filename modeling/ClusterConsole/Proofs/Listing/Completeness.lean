import ClusterConsole.Proofs.Listing.Collection
import ClusterConsole.Proofs.Traffic.Runs

/-!
# Complete listings

Fetching page after page from a faithful backend, until a page says that there is no more, gives
every object of the collection once and in order. Fetches that fail on the way change nothing.
-/

namespace ClusterConsole.Engine

open Backend (Endpoints Failure Reply)
open Json (Fields Value)

variable {config : Config} {e : Engine} {c : Collection} {backend : Http.Request → Http.Response}

/-- A fetch with nothing between its issue and its completion, unless there is no target. -/
def fetch (e : Engine) (config : Config) (send : Http.Request → Reply) :
    Option (Completion × Engine) :=
  match e.issue config with
  | .ok (i, e) => some (e.complete i (send i.request))
  | .error _ => none

def answered (backend : Http.Request → Http.Response) (trouble : Option Reply) (r : Http.Request) :
    Reply :=
  trouble.getD (.response (backend r))

structure Reading where
  reports : List Report
  /-- The last report says that there is no more. -/
  done : Bool

/-- One fetch after another until a report says that there is no more. -/
def read (config : Config) (backend : Http.Request → Http.Response) :
    List (Option Reply) → Engine → Reading
  | [], _ => ⟨[], false⟩
  | trouble :: rest, e =>
    match e.fetch config (answered backend trouble) with
    | none => ⟨[], false⟩
    | some (.applied report, e) =>
      if report.hasMore then
        let later := read config backend rest e
        ⟨report :: later.reports, later.done⟩
      else ⟨[report], true⟩
    | some (_, e) => read config backend rest e

inductive Fails : Reply → Prop where
  | transport (f : Transport.Failure) : Fails (.failure f)
  | timeout (millis : Nat) : Fails (.timeout millis)
  | refused {r : Http.Response} {f : Failure} (h : Backend.openEnvelope r = .error f) :
    Fails (.response r)

theorem Fails.payloadOf {reply : Reply} (h : Fails reply) (q : Query) :
    ∃ f, payloadOf q reply = .error f := by
  cases h with
  | transport f => exact ⟨.transport f, rfl⟩
  | timeout millis => exact ⟨.timeout millis, rfl⟩
  | @refused r f h =>
    refine ⟨f, ?_⟩
    simp [Engine.payloadOf, Reply.response?, h, bind, Except.bind]

/-- The listing of a target is at a place with these objects before it. -/
structure Ready (c : Collection) (e : Engine) (rest : List Fields) : Prop where
  selected : e.target ≠ none
  unfiltered : e.filters.active = []
  place : c.after e.cursor.id? = rest

theorem fetch_eq {target : Target} (ht : e.target = some target)
    (send : Http.Request → Reply) :
    e.fetch config send = some (e.departed.complete (e.fetchFor config target)
      (send (e.fetchFor config target).request)) := by
  rw [fetch, issue_of_target ht]

/-- Such a fetch is an issue and a landing in the traffic of an engine that waits for nothing. -/
theorem fetch_is_traffic {send : Http.Request → Reply} {outcome : Completion} {e' : Engine}
    (h : e.fetch config send = some (outcome, e')) :
    ∃ i, e.issue config = .ok (i, e.departed) ∧
      Traffic.run config ⟨e, []⟩ [.issue, .land i.ticket (send i.request)] = ⟨e', []⟩ ∧
      Traffic.outcomes config ⟨e, []⟩ [.issue, .land i.ticket (send i.request)] =
        [(i.ticket, outcome)] := by
  cases ht : e.target with
  | none =>
    rw [fetch, issue_of_no_target ht] at h
    cases h
  | some target =>
    rw [fetch_eq ht, Option.some.injEq] at h
    have hdepart : Traffic.step config ⟨e, []⟩ .issue =
        ⟨e.departed, [e.fetchFor config target]⟩ := Traffic.depart_of_target ht
    have hflight : (⟨e.departed, [e.fetchFor config target]⟩ : Traffic).flight?
        (e.fetchFor config target).ticket = some (e.fetchFor config target) := by
      simp [Traffic.flight?]
    refine ⟨e.fetchFor config target, issue_of_target ht, ?_, ?_⟩
    · rw [Traffic.run_cons, hdepart, Traffic.run_cons, Traffic.step_land,
        Traffic.land_of_flight hflight, h]
      simp [Traffic.run]
    · have hland : (⟨e.departed, [e.fetchFor config target]⟩ : Traffic).completion?
          (e.fetchFor config target).ticket (send (e.fetchFor config target).request) =
          some outcome := by
        rw [Traffic.completion?, hflight, Option.map_some, h]
      simp only [Traffic.outcomes, Traffic.outcome?, hdepart, hland, Option.map_some,
        Option.toList_none, Option.toList_some, List.nil_append, List.append_nil]

theorem departed_cursor (h : e.filters.active = []) : e.departed.cursor = e.cursor := by
  simp [departed, h]

theorem fetch_of_fails {rest : List Fields} {reply : Reply} (h : Ready c e rest)
    (hfails : Fails reply) :
    ∃ f e', e.fetch config (fun _ => reply) = some (.failed f, e') ∧ Ready c e' rest := by
  obtain ⟨hselected, hunfiltered, hplace⟩ := h
  obtain ⟨target, ht⟩ := Option.ne_none_iff_exists'.1 hselected
  obtain ⟨f, hf⟩ := hfails.payloadOf (e.fetchFor config target).query
  refine ⟨f, e.departed.noting f, ?_, hselected, hunfiltered, ?_⟩
  · rw [fetch_eq ht, complete_of_failure rfl hf]
  · change c.after e.departed.cursor.id? = rest
    rw [departed_cursor hunfiltered]
    exact hplace

theorem continues_iff {q : Query} {p : Payload} {rest : List Fields} (hsuffix : rest <:+ c.objects)
    (hlimit : 0 < q.limit.toNat)
    (hrecords : p.records = (rest.take q.limit.toNat).map (Record.ofFields .rest))
    (hcount : p.itemCount = (rest.take q.limit.toNat).length) :
    (∃ last, Continues q p last) ↔ q.limit.toNat ≤ rest.length := by
  refine ⟨?_, ?_⟩
  · rintro ⟨last, -, hfull, -⟩
    rw [hcount, List.length_take] at hfull
    omega
  · intro hfull
    obtain ⟨o, hlast, hgiven, -⟩ := Collection.page_end hsuffix hlimit hfull
    refine ⟨Record.ofFields .rest o, ?_, ?_, hgiven⟩
    · rw [hrecords, List.getLast?_map, hlast]
      rfl
    · rw [hcount, List.length_take]
      omega

theorem place_of_continues {q : Query} {p : Payload} {rest : List Fields} {last : Record}
    (hsuffix : rest <:+ c.objects) (hlimit : 0 < q.limit.toNat)
    (hrecords : p.records = (rest.take q.limit.toNat).map (Record.ofFields .rest))
    (hfull : q.limit.toNat ≤ rest.length) (hlast : Continues q p last) :
    c.after (some last.id) = rest.drop q.limit.toNat := by
  obtain ⟨o, ho, -, hplace⟩ := Collection.page_end hsuffix hlimit hfull
  have hrecord : some (Record.ofFields .rest o) = some last := by
    rw [← hlast.1, hrecords, List.getLast?_map, ho]
    rfl
  rw [← Option.some.inj hrecord]
  exact hplace

theorem fetch_of_answer {rest : List Fields} (h : Ready c e rest)
    (hbackend : c.Faithful config.endpoints backend)
    (hsize : 0 < config.options.fetchPageSize.toNat) :
    ∃ report e', e.fetch config (answered backend none) = some (.applied report, e') ∧
      report.page.records.map (·.raw) =
        (rest.take config.options.fetchPageSize.toNat).map .object ∧
      (report.hasMore = true ↔ config.options.fetchPageSize.toNat ≤ rest.length) ∧
      (report.hasMore = true → Ready c e' (rest.drop config.options.fetchPageSize.toNat)) := by
  obtain ⟨hselected, hunfiltered, hplace⟩ := h
  obtain ⟨target, ht⟩ := Option.ne_none_iff_exists'.1 hselected
  have hsuffix : rest <:+ c.objects := hplace ▸ c.after_suffix _
  have hissue : e.issue config = .ok (e.fetchFor config target, e.departed) := issue_of_target ht
  have hanswers := hbackend _ _ _ (issue_listing hissue hunfiltered)
  rw [hplace] at hanswers
  obtain ⟨body, hopen, hbody⟩ := openEnvelope_answer hanswers
  have hpayload : payloadOf (e.query config target)
      (.response (backend (e.fetchFor config target).request)) =
      .ok (.ofBody body target.className) := by
    simp [payloadOf, Reply.response?, hopen, bind, Except.bind, pure, Except.pure, query]
  generalize hp : Payload.ofBody body target.className = p at hpayload
  rw [hbody] at hp
  have hrecords : p.records =
      (rest.take config.options.fetchPageSize.toNat).map (Record.ofFields .rest) := by
    rw [← hp]
  have hcount : p.itemCount = (rest.take config.options.fetchPageSize.toNat).length := by
    rw [← hp]
  have hlisting : (e.query config target).mode.isSearch = false := by
    have hsearch := Query.Mode.select_isSearch e.filters e.cursor.id?
    rwa [hunfiltered] at hsearch
  have hmore : (e.departed.reportOn (e.query config target) p).hasMore = true ↔
      config.options.fetchPageSize.toNat ≤ rest.length :=
    (reportOn_hasMore hlisting).trans (continues_iff hsuffix hsize hrecords hcount)
  refine ⟨_, e.departed.taking (e.query config target) p, ?_, ?_, hmore, ?_⟩
  · rw [fetch_eq ht]
    exact congrArg some (complete_of_payload rfl hpayload)
  · change p.records.map (·.raw) = _
    rw [hrecords, List.map_map]
    rfl
  · intro hmore'
    obtain ⟨last, hlast⟩ := (reportOn_hasMore hlisting).1 hmore'
    refine ⟨hselected, hunfiltered, ?_⟩
    have hcursor : (e.departed.taking (e.query config target) p).cursor = .after last.id := by
      have hnext := ofPage_of_continues hlast
      simpa [taking, nextCursor, hlisting] using hnext
    rw [hcursor]
    exact place_of_continues hsuffix hsize hrecords (hmore.1 hmore') hlast

theorem read_of_failed (backend : Http.Request → Http.Response) (attempts : List (Option Reply))
    {reply : Reply} {f : Failure} {e' : Engine}
    (h : e.fetch config (fun _ => reply) = some (.failed f, e')) :
    read config backend (some reply :: attempts) e = read config backend attempts e' := by
  have hanswered : answered backend (some reply) = fun _ => reply := rfl
  rw [read, hanswered, h]

theorem read_of_more (attempts : List (Option Reply)) {report : Report} {e' : Engine}
    (h : e.fetch config (answered backend none) = some (.applied report, e'))
    (hmore : report.hasMore = true) :
    read config backend (none :: attempts) e =
      ⟨report :: (read config backend attempts e').reports,
        (read config backend attempts e').done⟩ := by
  rw [read, h]
  exact if_pos hmore

theorem read_of_last (attempts : List (Option Reply)) {report : Report} {e' : Engine}
    (h : e.fetch config (answered backend none) = some (.applied report, e'))
    (hmore : ¬report.hasMore = true) :
    read config backend (none :: attempts) e = ⟨[report], true⟩ := by
  rw [read, h]
  exact if_neg hmore

/-- From its place on, a reading takes as many pages as there are answers, up to the first page that
is not full. -/
theorem read_from {rest : List Fields} (h : Ready c e rest)
    (hbackend : c.Faithful config.endpoints backend)
    (hsize : 0 < config.options.fetchPageSize.toNat) {attempts : List (Option Reply)}
    (hfails : ∀ reply, some reply ∈ attempts → Fails reply) :
    (read config backend attempts e).reports.length = min (attempts.countP (·.isNone))
        (rest.length / config.options.fetchPageSize.toNat + 1) ∧
    ((read config backend attempts e).done = true ↔
      rest.length / config.options.fetchPageSize.toNat + 1 ≤ attempts.countP (·.isNone)) ∧
    ((read config backend attempts e).done = true →
      (read config backend attempts e).reports.flatMap (fun r => r.page.records.map (·.raw)) =
        rest.map .object) := by
  induction attempts generalizing e rest with
  | nil =>
    refine ⟨?_, ?_, ?_⟩
    · simp [read]
    · simp [read]
    · intro hdone
      cases hdone
  | cons trouble attempts ih =>
    have hlater : ∀ reply, some reply ∈ attempts → Fails reply :=
      fun reply hr => hfails reply (.tail _ hr)
    cases trouble with
    | some reply =>
      obtain ⟨f, e', hfetch, hready⟩ := fetch_of_fails h (hfails reply (.head _))
      have hread := read_of_failed backend attempts hfetch
      have hcount : (some reply :: attempts).countP (·.isNone) = attempts.countP (·.isNone) :=
        List.countP_cons_of_neg (by simp)
      rw [hread, hcount]
      exact ih hready hlater
    | none =>
      obtain ⟨report, e', hfetch, hraw, hmore, hready⟩ := fetch_of_answer h hbackend hsize
      have hcount : (none :: attempts).countP (·.isNone) = attempts.countP (·.isNone) + 1 :=
        List.countP_cons_of_pos rfl
      rw [hcount]
      by_cases hm : report.hasMore = true
      · obtain ⟨hlength, hdone, hconcat⟩ := ih (hready hm) hlater
        have hdiv := Nat.div_eq_sub_div hsize (hmore.1 hm)
        rw [List.length_drop] at hlength hdone
        rw [read_of_more attempts hfetch hm]
        refine ⟨?_, ?_, ?_⟩
        · rw [List.length_cons]
          omega
        · rw [hdone]
          omega
        · intro hend
          rw [List.flatMap_cons, hraw, hconcat hend, ← List.map_append, List.take_append_drop]
      · have hlt : rest.length < config.options.fetchPageSize.toNat := by
          rw [hmore] at hm
          omega
        have hdiv := Nat.div_eq_of_lt hlt
        rw [read_of_last attempts hfetch hm]
        refine ⟨?_, ?_, ?_⟩
        · rw [List.length_singleton]
          omega
        · exact iff_of_true rfl (by omega)
        · intro _
          rw [List.flatMap_singleton, hraw, List.take_of_length_le (by omega)]

theorem ready_of_selected (c : Collection) {target : Target} {filters : FilterSet}
    (htarget : e.target ≠ some target) (hfilters : filters.active = []) :
    Ready c ((e.selectTarget target).setFilters filters) c.objects := by
  rw [selectTarget, if_neg htarget, setFilters]
  split
  · next hsame =>
    refine ⟨by simp, ?_, rfl⟩
    rw [← hfilters, ← hsame]
  · exact ⟨by simp, hfilters, rfl⟩

/-- Reading a faithful backend's collection from a target that was just selected takes one page more
than there are full ones, whatever fails on the way, and gives all objects in their order. -/
theorem listing_complete (hbackend : c.Faithful config.endpoints backend)
    (hsize : 0 < config.options.fetchPageSize.toNat) {attempts : List (Option Reply)}
    (hfails : ∀ reply, some reply ∈ attempts → Fails reply) {target : Target} {filters : FilterSet}
    (htarget : e.target ≠ some target) (hfilters : filters.active = []) :
    let pages := c.objects.length / config.options.fetchPageSize.toNat + 1
    let reading := read config backend attempts ((e.selectTarget target).setFilters filters)
    reading.reports.length = min (attempts.countP (·.isNone)) pages ∧
      (reading.done = true ↔ pages ≤ attempts.countP (·.isNone)) ∧
      (reading.done = true → reading.reports.length = pages ∧
        reading.reports.flatMap (fun r => r.page.records.map (·.raw)) =
          c.objects.map .object) := by
  intro pages reading
  have hready := ready_of_selected c htarget hfilters
  obtain ⟨hlength, hdone, hconcat⟩ := read_from hready hbackend hsize hfails
  refine ⟨hlength, hdone, ?_⟩
  intro hend
  have henough : pages ≤ attempts.countP (·.isNone) := hdone.1 hend
  exact ⟨hlength.trans (Nat.min_eq_right henough), hconcat hend⟩

def Sample.shelf : Collection where
  objects := [[("id", .string "a")], [("id", .string "b")], [("id", .string "c")]]
  named := by
    intro o ho
    simp only [List.mem_cons, List.not_mem_nil, or_false] at ho
    rcases ho with rfl | rfl | rfl
    · exact ⟨"a", rfl, by decide, by decide⟩
    · exact ⟨"b", rfl, by decide, by decide⟩
    · exact ⟨"c", rfl, by decide, by decide⟩
  plain := by
    intro o ho
    simp only [List.mem_cons, List.not_mem_nil, or_false] at ho
    rcases ho with rfl | rfl | rfl <;> rfl
  distinct := (by decide : [some "a", some "b", some "c"].Nodup)

def Sample.attempts : List (Option Reply) :=
  [some (.timeout 5), none, some (.failure .bridgeUnavailable),
    some (.response (.make 500 "" [] "")), none]

def Sample.reading : Reading :=
  read Sample.config Sample.shelf.serve Sample.attempts
    (((new Sample.config).selectTarget Sample.target).setFilters .empty)

theorem shelf_read_in_two_pages :
    Sample.reading.done = true ∧ Sample.reading.reports.length = 2 ∧
      Sample.reading.reports.flatMap (fun r => r.page.records.map (·.raw)) =
        Sample.shelf.objects.map .object := by
  have hreadable : ∀ o ∈ Sample.shelf.objects, (Value.object o).Readable answerDepth := by
    intro o ho
    simp only [Sample.shelf, List.mem_cons, List.not_mem_nil, or_false] at ho
    rcases ho with rfl | rfl | rfl <;>
    · refine ⟨List.pairwise_singleton _ _, ?_⟩
      intro f hf
      rw [List.mem_singleton.1 hf]
      trivial
  have hfails : ∀ reply, some reply ∈ Sample.attempts → Fails reply := by
    intro reply hreply
    simp only [Sample.attempts, List.mem_cons, Option.some.injEq, List.not_mem_nil, reduceCtorEq,
      or_false, false_or] at hreply
    rcases hreply with rfl | rfl | rfl
    · exact .timeout 5
    · exact .transport _
    · exact .refused rfl
  have htarget : (new Sample.config).target ≠ some Sample.target := by decide
  have hfilters : FilterSet.empty.active = [] := rfl
  have hcomplete := listing_complete (Collection.serve_faithful hreadable Sample.config.endpoints)
    (by decide) hfails htarget hfilters
  have hdone : Sample.reading.done = true := hcomplete.2.1.2 (by decide)
  exact ⟨hdone, hcomplete.2.2 hdone⟩

end ClusterConsole.Engine
