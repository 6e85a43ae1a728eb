import ClusterConsole.Proofs.Backend.Endpoints

/-!
# Which connection a lookup asks for

The last segment of a lookup's address is read back as the id, unless that is one dot or two or has
tabs or line breaks in it. Dots are left out whole, and of other ids the tabs and line breaks are:
ids that differ only in these have one address.
-/

namespace ClusterConsole

open Url (Segments)

namespace Url

variable {u : Url} {family : Family} {segs more more' : Segments} {s : List Char}

def kept (s : List Char) : List Char := s.filter (!isIgnored ·)

/-- Nothing of it is lost when it becomes a segment. -/
structure Carried (s : List Char) : Prop where
  kept_eq : kept s = s
  not_single : s ≠ ['.']
  not_double : s ≠ ['.', '.']

/-- What stands behind the word `connection` in the lookup of an id, before it is encoded. -/
def behindConnection (s : List Char) : Segments :=
  if s = ['.'] ∨ s = ['.', '.'] then ["get".toList]
  else if kept s = ['.', '.'] then [[]]
  else if kept s = ['.'] then ["get".toList, []]
  else ["get".toList, kept s]

theorem behindConnection_of_dots (h : s = ['.'] ∨ s = ['.', '.']) :
    behindConnection s = ["get".toList] := if_pos h

theorem Carried.not_dots (h : Carried s) : ¬(s = ['.'] ∨ s = ['.', '.']) :=
  not_or.2 ⟨h.not_single, h.not_double⟩

theorem Carried.behindConnection_eq (h : Carried s) : behindConnection s = ["get".toList, s] := by
  rw [behindConnection, if_neg h.not_dots, h.kept_eq, if_neg h.not_double, if_neg h.not_single]

theorem behindConnection_concat (s : List Char) :
    ∃ init last, behindConnection s = init ++ [last] ∧ (last = s ↔ Carried s) := by
  have hnil : ∀ t, t ≠ [] → kept s = t → s ≠ t → ([] = s ↔ Carried s) := by
    intro t ht hkept hne
    refine ⟨?_, fun h => absurd (h.kept_eq.symm.trans hkept) hne⟩
    rintro rfl
    exact absurd hkept.symm ht
  fun_cases behindConnection s with
  | case1 hdots =>
    refine ⟨[], "get".toList, rfl, ?_, fun h => absurd hdots h.not_dots⟩
    rintro rfl
    exact absurd hdots (by decide)
  | case2 hdots hdouble =>
    exact ⟨[], [], rfl, hnil _ (by decide) hdouble (not_or.1 hdots).2⟩
  | case3 hdots _ hsingle =>
    exact ⟨["get".toList], [], rfl, hnil _ (by decide) hsingle (not_or.1 hdots).1⟩
  | case4 hdots =>
    obtain ⟨hsingle, hdouble⟩ := not_or.1 hdots
    exact ⟨["get".toList], kept s, rfl, fun h => ⟨h, hsingle, hdouble⟩, Carried.kept_eq⟩

theorem behindConnection_ne_nil (s : List Char) : behindConnection s ≠ [] := by
  fun_cases behindConnection s <;> exact List.cons_ne_nil _ _

theorem behindConnection_eq_get_iff :
    behindConnection s = ["get".toList] ↔ s = ['.'] ∨ s = ['.', '.'] := by
  fun_cases behindConnection s with
  | case1 hdots => exact ⟨fun _ => hdots, fun _ => rfl⟩
  | case2 hdots _ => exact ⟨nofun, fun h => absurd h hdots⟩
  | case3 hdots _ _ => exact ⟨nofun, fun h => absurd h hdots⟩
  | case4 hdots => exact ⟨nofun, fun h => absurd h hdots⟩

theorem Carried.behindConnection_eq_iff (h : Carried s) (hne : s ≠ []) (t : List Char) :
    behindConnection t = behindConnection s ↔ kept t = s := by
  rw [h.behindConnection_eq]
  fun_cases behindConnection t with
  | case1 hdots =>
    have hkept : kept t = t := by
      rcases hdots with rfl | rfl <;> rfl
    rw [hkept]
    exact ⟨nofun, fun he => absurd (he ▸ hdots) h.not_dots⟩
  | case2 _ hdouble =>
    rw [hdouble]
    exact ⟨nofun, fun he => absurd he.symm h.not_double⟩
  | case3 _ _ hsingle =>
    rw [hsingle]
    refine ⟨fun he => ?_, fun he => absurd he.symm h.not_single⟩
    exact absurd (List.cons.inj (List.cons.inj he).2).1.symm hne
  | case4 => simp

theorem push_getWords (h : Rooted family (stem segs)) (s : List Char) :
    push family (stem segs ++ getWords) s =
      stem segs ++ "connection".toList :: (behindConnection s).map (encode family.segmentSet) := by
  have hget : encode family.segmentSet "get".toList = "get".toList :=
    encode_word family (by decide)
  have hwords : stem segs ++ getWords = stem segs ++ ["connection".toList] ++ ["get".toList] := by
    rw [List.append_assoc]
    rfl
  have hrooted : Rooted family (stem segs ++ ["connection".toList]) := h.concat (.inr (by decide))
  have hbase : base (stem segs ++ getWords) = stem segs ++ getWords := by
    rw [hwords]
    exact base_concat (by decide)
  have hrooted' : Rooted family (base (stem segs ++ getWords)) := by
    rw [hbase, hwords]
    exact hrooted.append (by simp)
  have hne : base (stem segs ++ getWords) ≠ [] := by
    rw [hbase]
    simp [getWords]
  fun_cases behindConnection s with
  | case1 hdots =>
    rw [push, if_pos hdots, List.map_singleton, hget]
    rfl
  | case2 hdots hdouble =>
    have hclimbs : Climbs s := ⟨fun hs => hdots (.inr hs), hdouble⟩
    rw [hwords, push_climbs hrooted (by simp) (by decide) (by decide) hclimbs, List.append_assoc]
    rfl
  | case3 hdots _ hsingle =>
    rw [push_single hrooted' hne hdots hsingle, hbase, List.append_assoc, List.map_cons, hget]
    rfl
  | case4 hdots hdouble hsingle =>
    rw [push_segment family hrooted' hdots rfl hsingle hdouble (.inl hne), hbase,
      List.append_assoc, List.map_cons, hget]
    rfl

def withConnection (u : Url) (segs more : Segments) : Url :=
  { u with path := .segments (stem segs ++ "connection".toList ::
      more.map (encode u.family.segmentSet)) }

theorem join_lookup (hpath : u.path = .segments segs) (h : Rooted u.family (stem segs))
    (s : List Char) :
    u.join (getWords ++ [s]) = u.withConnection segs (behindConnection s) := by
  rw [join, hpath]
  dsimp only
  rw [extend_getWords h, push_getWords h]
  rfl

theorem authorityChars_withConnection (u : Url) (segs : Segments) (hmore : more ≠ [])
    (hmore' : more' ≠ []) :
    (u.withConnection segs more).authorityChars = (u.withConnection segs more').authorityChars := by
  obtain ⟨t, rest, rfl⟩ := List.exists_cons_of_ne_nil hmore
  obtain ⟨t', rest', rfl⟩ := List.exists_cons_of_ne_nil hmore'
  have hauthority : ∀ m, (u.withConnection segs m).authority = u.authority := fun _ => rfl
  unfold authorityChars
  rw [hauthority, hauthority]
  cases u.authority with
  | some a => rfl
  | none =>
    simp only [withConnection]
    rcases stem segs with _ | ⟨_ | ⟨c, cs⟩, _ | ⟨first, others⟩⟩ <;> rfl

theorem text_withConnection_eq_iff (u : Url) (segs : Segments) (hmore : more ≠ [])
    (hmore' : more' ≠ []) :
    (u.withConnection segs more).text = (u.withConnection segs more').text ↔ more = more' := by
  refine ⟨?_, fun he => he ▸ rfl⟩
  intro htext
  have hpath : ∀ m : Segments, pathChars (stem segs ++ "connection".toList ::
      m.map (encode u.family.segmentSet)) = pathChars (stem segs ++ ["connection".toList]) ++
        pathChars (m.map (encode u.family.segmentSet)) := by
    intro m
    rw [List.append_cons, pathChars_append]
  have hchars := String.ofList_injective htext
  simp only [chars] at hchars
  rw [authorityChars_withConnection u segs hmore hmore'] at hchars
  simp only [withConnection, queryChars, fragmentChars, Path.chars, hpath, List.append_left_inj,
    List.append_right_inj] at hchars
  have hsegs := pathChars_injective (map_encode_lacks u.family (by decide) more)
    (map_encode_lacks u.family (by decide) more') hchars
  have hpercent : '%' ∈ u.family.segmentSet := u.family.mem_segmentSet '%' (by decide)
  exact (List.map_inj_right fun _ _ he => encode_injective hpercent he).1 hsegs

theorem lastSegment_withConnection (hscheme : Unmarked u.scheme)
    (hauthority : ∀ a, u.authority = some a → Unmarked a.chars) (hneat : Neat u.family segs)
    (init : Segments) (last : List Char) :
    lastSegment (u.withConnection segs (init ++ [last])).text.toList =
      encode u.family.segmentSet last := by
  have hpath : (u.withConnection segs (init ++ [last])).path =
      .segments ((stem segs ++ "connection".toList :: init.map (encode u.family.segmentSet)) ++
        [encode u.family.segmentSet last]) := by
    simp [withConnection]
  have hmark : ∀ c ∈ ['/', '?', '#'], c.isAlpha = false := by
    have hall : ['/', '?', '#'].all (!·.isAlpha) = true := by decide
    exact fun c hc => by simpa using List.all_eq_true.1 hall c hc
  have hlacks : ∀ c ∈ ['/', '?', '#'], Lacks c segs → Lacks c ((stem segs ++ "connection".toList ::
      init.map (encode u.family.segmentSet)) ++ [encode u.family.segmentSet last]) := by
    intro c hc hsegs
    have hencoded := map_encode_lacks u.family hc
    refine lacks_append (lacks_append (hsegs.sublist (stem_isPrefix segs).sublist) ?_)
      (hencoded [last])
    exact List.forall_mem_cons.2 ⟨not_mem_word (by decide) (hmark c hc), hencoded init⟩
  exact lastSegment_text (u := u.withConnection segs (init ++ [last])) hscheme hauthority hpath
    (hlacks '/' (by decide) hneat.slashless _ (by simp))
    (hlacks '?' (by decide) hneat.queryless) (hlacks '#' (by decide) hneat.fragmentless)

theorem join_getWords (hpath : u.path = .segments segs) (h : Rooted u.family (stem segs)) :
    u.join getWords = u.withConnection segs ["get".toList] := by
  have hdot : u.join (getWords ++ [['.']]) = u.join getWords := by
    rw [join, join, hpath]
    simp only [extend, List.foldl_append, List.foldl_cons, List.foldl_nil]
    rw [push, if_pos (.inl rfl)]
  rw [← hdot, join_lookup hpath h, behindConnection_of_dots (.inl rfl)]

end Url

namespace Backend.Endpoints

variable {e : Endpoints}

theorem connectionGet_eq {segs : Segments} (hpath : e.base.path = .segments segs)
    (hneat : Url.Neat e.base.family segs) (id : String) :
    e.connectionGet id = (e.base.withConnection segs (Url.behindConnection id.toList)).text :=
  congrArg Url.text (Url.join_lookup hpath (Url.stem_rooted hneat.rooted) id.toList)

/-- An id is read back from the last segment of its address if and only if it is carried. Addresses
are the same if and only if the same stands behind their word `connection`: the address of an id
that is carried is that of no other, up to tabs and line breaks. The endpoint without an id is
reached by one dot and by two. -/
theorem connectionGet_id_iff (e : Endpoints) :
    (∀ baseUrl, of baseUrl = .ok e → e.Parsed) ∧
    (e.Parsed → ∀ id,
      (Url.decode? (Url.lastSegment (e.connectionGet id).toList) = some id.toList ↔
        Url.Carried id.toList) ∧
      (∀ id', e.connectionGet id' = e.connectionGet id ↔
        Url.behindConnection id'.toList = Url.behindConnection id.toList) ∧
      (Url.Carried id.toList → id ≠ "" → ∀ id', e.connectionGet id' = e.connectionGet id ↔
        Url.kept id'.toList = id.toList) ∧
      (e.connectionGet id = e.join ["connection", "get"] ↔ id = "." ∨ id = "..")) := by
  refine ⟨fun _ => parsed_of, ?_⟩
  intro h id
  obtain ⟨segs, hpath, hneat⟩ := h.path
  have hne := Url.behindConnection_ne_nil
  have hsame : ∀ id', e.connectionGet id' = e.connectionGet id ↔
      Url.behindConnection id'.toList = Url.behindConnection id.toList := by
    intro id'
    rw [connectionGet_eq hpath hneat, connectionGet_eq hpath hneat]
    exact Url.text_withConnection_eq_iff e.base segs (hne _) (hne _)
  refine ⟨?_, hsame, ?_, ?_⟩
  · obtain ⟨init, last, hconcat, hlast⟩ := Url.behindConnection_concat id.toList
    have hpercent := e.base.family.mem_segmentSet '%' (by decide)
    rw [connectionGet_eq hpath hneat, hconcat,
      Url.lastSegment_withConnection h.scheme h.authority hneat,
      Url.decode?_encode hpercent, Option.some.injEq, hlast]
  · intro hcarried hnonempty id'
    rw [hsame]
    exact hcarried.behindConnection_eq_iff (by simpa using hnonempty) id'.toList
  · have hget : e.join ["connection", "get"] = (e.base.withConnection segs ["get".toList]).text :=
      congrArg Url.text (Url.join_getWords hpath (Url.stem_rooted hneat.rooted))
    rw [connectionGet_eq hpath hneat, hget,
      Url.text_withConnection_eq_iff e.base segs (hne _) (List.cons_ne_nil _ _),
      Url.behindConnection_eq_get_iff, ← String.toList_inj, ← String.toList_inj]
    rfl

def Sample.hollow : Endpoints :=
  ⟨⟨"web+app".toList, some ⟨[], none, .name "h".toList, none⟩,
    .segments [[], "x".toList, [], []], some "q=/a".toList, some "b/c".toList⟩⟩

theorem mixed_id_read_back :
    of "Web+App://h//x//?q=/a#b/c" = .ok Sample.hollow ∧
    Sample.hollow.connectionGet "../%2e?é#\\" =
      "web+app://h//x//connection/get/..%2F%252e%3F%C3%A9%23\\?q=/a#b/c" ∧
    Url.Carried "../%2e?é#\\".toList ∧
    Url.decode? (Url.lastSegment (Sample.hollow.connectionGet "../%2e?é#\\").toList) =
      some "../%2e?é#\\".toList := by
  have hof : of "Web+App://h//x//?q=/a#b/c" = .ok Sample.hollow := by
    rfl
  have hcarried : Url.Carried "../%2e?é#\\".toList := ⟨by decide, by decide, by decide⟩
  obtain ⟨hparsed, hall⟩ := connectionGet_id_iff Sample.hollow
  obtain ⟨hread, -⟩ := hall (hparsed _ hof) "../%2e?é#\\"
  exact ⟨hof, by decide +kernel, hcarried, hread.2 hcarried⟩

/-- A tab is lost, and the address is that of another connection. -/
theorem tabbed_id_reaches_other :
    of defaultUrl = .ok Sample.bare ∧
    Sample.bare.connectionGet "a\tb" = "http://127.0.0.1:5175/connection/get/ab" ∧
    Sample.bare.connectionGet "ab" = Sample.bare.connectionGet "a\tb" ∧
    Url.decode? (Url.lastSegment (Sample.bare.connectionGet "a\tb").toList) ≠
      some "a\tb".toList := by
  have haddress : Sample.bare.connectionGet "a\tb" = "http://127.0.0.1:5175/connection/get/ab" := by
    decide +kernel
  refine ⟨rfl, haddress, ?_, ?_⟩
  · rw [haddress]
    decide +kernel
  · rw [haddress]
    decide +kernel

end Backend.Endpoints

end ClusterConsole
