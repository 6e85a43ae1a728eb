import ClusterConsole.Backend.Endpoints
import ClusterConsole.Proofs.Url.Parser

/-!
# Where endpoints lie

An endpoint has everything of its base but the path, and that goes on where the base's ends. The
path of a connection ends with the connection's id as one segment, for every id but those that turn
into two dots when tabs and line breaks are taken out of them: these climb out of the endpoint.
-/

namespace ClusterConsole

open Url (Family Segments Slashless isIgnored isSlash pathChars stem withoutEndSlash)

namespace Url

variable {family : Family} {segs : Segments} {s : List Char}

/-- Two dots once tabs and line breaks are out, though not as it is written. -/
def Climbs (s : List Char) : Prop :=
  s ≠ ['.', '.'] ∧ s.filter (!isIgnored ·) = ['.', '.']

instance (s : List Char) : Decidable (Climbs s) := inferInstanceAs (Decidable (_ ∧ _))

/-- No character in it ends the segment or the path. -/
def OneSegment (family : Family) (s : List Char) : Prop :=
  ∀ c ∈ s, isSlash family c = false ∧ c ≠ '?' ∧ c ≠ '#'

theorem encode_oneSegment (family : Family) (s : List Char) :
    OneSegment family (encode family.segmentSet s) := by
  intro c hc
  refine ⟨?_, ?_, ?_⟩
  · rw [Bool.eq_false_iff]
    intro hslash
    simp only [isSlash, Bool.or_eq_true, Bool.and_eq_true, beq_iff_eq] at hslash
    rcases hslash with rfl | ⟨hspecial, rfl⟩
    · exact not_mem_encode_of_mem_set (family.mem_segmentSet '/' (by decide)) (by decide)
        (by decide) hc
    · exact not_mem_encode_of_mem_set (Family.backslash_mem_segmentSet hspecial) (by decide)
        (by decide) hc
  · rintro rfl
    exact not_mem_encode_of_mem_set (family.mem_segmentSet '?' (by decide)) (by decide)
      (by decide) hc
  · rintro rfl
    exact not_mem_encode_of_mem_set (family.mem_segmentSet '#' (by decide)) (by decide)
      (by decide) hc

theorem push_stays (family : Family) (h : [] ∉ segs) (hne : segs ≠ []) (hclimbs : ¬Climbs s) :
    ∃ more : Segments, more.length ≤ 1 ∧ (∀ t ∈ more, OneSegment family t) ∧
      push family segs s = segs ++ more := by
  have hbase := base_of_no_nil h
  have hrooted : Rooted family (base segs) := hbase.symm ▸ rooted_of_no_nil h
  have hne' : base segs ≠ [] := hbase.symm ▸ hne
  by_cases hdots : s = ['.'] ∨ s = ['.', '.']
  · refine ⟨[], Nat.zero_le 1, fun t ht => absurd ht List.not_mem_nil, ?_⟩
    rw [push, if_pos hdots, List.append_nil]
  · have hdouble : s.filter (!isIgnored ·) ≠ ['.', '.'] :=
      fun he => hclimbs ⟨fun hs => hdots (.inr hs), he⟩
    by_cases hsingle : s.filter (!isIgnored ·) = ['.']
    · refine ⟨[[]], Nat.le_refl 1, ?_, ?_⟩
      · intro t ht c hc
        rw [List.mem_singleton.1 ht] at hc
        exact absurd hc List.not_mem_nil
      · rw [push_single hrooted hne' hdots hsingle, hbase]
    · refine ⟨[encode family.segmentSet (s.filter (!isIgnored ·))], Nat.le_refl 1, ?_, ?_⟩
      · intro t ht
        rw [List.mem_singleton.1 ht]
        exact encode_oneSegment family _
      · rw [push_segment family hrooted hdots rfl hsingle hdouble (.inl hne'), hbase]

theorem push_climbs {last : List Char} (h : Rooted family segs) (hne : segs ≠ [])
    (hlast : last ≠ []) (hdrive : isDriveLetter last = false) (hclimbs : Climbs s) :
    push family (segs ++ [last]) s = segs ++ [[]] := by
  have hdots : ¬(s = ['.'] ∨ s = ['.', '.']) := by
    rintro (rfl | rfl)
    · exact absurd hclimbs (by decide)
    · exact hclimbs.1 rfl
  have hclimb : climb (base (segs ++ [last])) = segs := by
    rw [base_concat hlast]
    simp only [climb, List.getLast?_concat, hdrive, Bool.false_eq_true, if_false,
      List.dropLast_concat]
  rw [push_double (hclimb.symm ▸ h) (hclimb.symm ▸ hne) hdots hclimbs.2, hclimb]

def getWords : Segments := ["connection".toList, "get".toList]

theorem extend_getWords (h : Rooted family (stem segs)) (s : List Char) :
    extend family (dropEmptyEnd segs) (getWords ++ [s]) =
      push family (stem segs ++ getWords) s := by
  have hwords : extend family (dropEmptyEnd segs) getWords = stem segs ++ getWords :=
    extend_words h (by decide) (by decide)
  rw [← hwords, extend, List.foldl_append]
  rfl

theorem authorityChars_of_path {u : Url} (h : u.path = .segments segs)
    (hfull : [] ∉ segs.dropLast) :
    u.authorityChars = u.authority.elim [] fun a => '/' :: '/' :: a.chars := by
  rw [authorityChars, h]
  cases u.authority with
  | some a => rfl
  | none =>
    rcases segs with _ | ⟨_ | ⟨c, cs⟩, _ | ⟨t, more⟩⟩
    · rfl
    · rfl
    · exact absurd (.head _) hfull
    · rfl
    · rfl

end Url

namespace Backend.Endpoints

variable {baseUrl id : String} {e : Endpoints}

def withPath (e : Endpoints) (path : List Char) : String :=
  String.ofList (e.base.scheme ++ ':' :: e.base.authorityChars ++ path ++ e.base.queryChars ++
    e.base.fragmentChars)

/-- Behind the endpoint's own path there is one segment at most. -/
def Confines (e : Endpoints) (id : String) : Prop :=
  ∃ more : Segments, more.length ≤ 1 ∧ (∀ s ∈ more, Url.OneSegment e.base.family s) ∧
    e.connectionGet id = e.withPath
      (withoutEndSlash e.base.path.chars ++ "/connection/get".toList ++ pathChars more)

theorem withPath_injective {path path' : List Char} (h : e.withPath path = e.withPath path') :
    path = path' := by
  have hchars := String.ofList_injective h
  rw [List.append_left_inj, List.append_left_inj, List.append_right_inj] at hchars
  exact hchars

theorem join_of_path {segs : Segments} (hpath : e.base.path = .segments segs)
    (hfull : [] ∉ segs.dropLast) {words : List String} {path : Segments}
    (h : Url.extend e.base.family (Url.dropEmptyEnd segs) (words.map String.toList) = path)
    (hpathFull : [] ∉ path.dropLast) : e.join words = e.withPath (pathChars path) := by
  have hjoin : e.url words = { e.base with path := .segments path } := by
    rw [url, Url.join, hpath]
    exact congrArg (fun p => { e.base with path := .segments p }) h
  have hauthority : ({ e.base with path := .segments path } : Url).authorityChars =
      e.base.authorityChars := by
    rw [Url.authorityChars_of_path rfl hpathFull, Url.authorityChars_of_path hpath hfull]
  rw [join, hjoin, Url.text, Url.chars, hauthority]
  rfl

theorem connectionGet_of_path {segs : Segments} (hpath : e.base.path = .segments segs)
    (hfull : [] ∉ segs.dropLast) {path : Segments}
    (h : Url.push e.base.family (stem segs ++ Url.getWords) id.toList = path)
    (hpathFull : [] ∉ path.dropLast) : e.connectionGet id = e.withPath (pathChars path) := by
  apply join_of_path hpath hfull _ hpathFull
  rw [← h, ← Url.extend_getWords (Url.rooted_of_no_nil (Url.nil_not_mem_stem hfull))]
  rfl

theorem of_eq_ok (h : of baseUrl = .ok e) :
    Url.parse (Text.trim baseUrl) = .ok e.base ∧ e.base.isBase = true := by
  unfold of at h
  split at h
  · cases h
  · next base hparse =>
    split at h
    · next hbase =>
      cases h
      exact ⟨hparse, hbase⟩
    · cases h

/-- What reading a base URL makes sure of, in whatever letters its host was written: the path has
segments with no mark in them, and no mark is in the scheme or the authority. -/
structure Parsed (e : Endpoints) : Prop where
  path : ∃ segs, e.base.path = .segments segs ∧ Url.Neat e.base.family segs
  scheme : Url.Unmarked e.base.scheme
  authority : ∀ a, e.base.authority = some a → Url.Unmarked a.chars

theorem parsed_of (h : of baseUrl = .ok e) : e.Parsed := by
  obtain ⟨hparse, hbase⟩ := of_eq_ok h
  refine ⟨?_, Url.parse_scheme_unmarked hparse, fun a ha => Url.parse_authority_unmarked hparse ha⟩
  cases hpath : e.base.path with
  | text cs => simp [Url.isBase, hpath] at hbase
  | segments segs => exact ⟨segs, rfl, Url.parse_neat hparse hpath⟩

theorem getWords_no_nil {segs : Segments} (h : [] ∉ segs.dropLast) :
    [] ∉ stem segs ++ Url.getWords := by
  rw [List.mem_append, not_or]
  exact ⟨Url.nil_not_mem_stem h, by decide⟩

theorem confines_of_not_climbs {segs : Segments} (hpath : e.base.path = .segments segs)
    (hclean : Slashless segs) (hfull : [] ∉ segs.dropLast) (h : ¬Url.Climbs id.toList) :
    e.Confines id := by
  have hnil := getWords_no_nil hfull
  obtain ⟨more, hlength, hone, hpush⟩ :=
    Url.push_stays e.base.family hnil (by simp [Url.getWords]) h
  have hpathFull : [] ∉ (stem segs ++ Url.getWords ++ more).dropLast := by
    rcases more with _ | ⟨t, _ | ⟨u, rest⟩⟩
    · rw [List.append_nil]
      exact fun hmem => hnil ((List.dropLast_sublist _).subset hmem)
    · rwa [List.dropLast_concat]
    · simp at hlength
  have hwords : pathChars Url.getWords = "/connection/get".toList := by decide
  refine ⟨more, hlength, hone, ?_⟩
  rw [connectionGet_of_path hpath hfull hpush hpathFull, Url.pathChars_append,
    Url.pathChars_append, Url.pathChars_stem hclean hfull, hwords, hpath]
  rfl

theorem connectionGet_of_climbs {segs : Segments} (hpath : e.base.path = .segments segs)
    (hclean : Slashless segs) (hfull : [] ∉ segs.dropLast) (h : Url.Climbs id.toList) :
    e.connectionGet id =
      e.withPath (withoutEndSlash e.base.path.chars ++ "/connection/".toList) := by
  have hnil := getWords_no_nil hfull
  have hsplit : stem segs ++ Url.getWords =
      stem segs ++ ["connection".toList] ++ ["get".toList] := by
    rw [List.append_assoc]
    rfl
  rw [hsplit] at hnil
  have hpush : Url.push e.base.family (stem segs ++ Url.getWords) id.toList =
      stem segs ++ ["connection".toList] ++ [[]] := by
    rw [hsplit]
    refine Url.push_climbs (Url.rooted_of_no_nil ?_) (by simp) (by decide) (by decide) h
    exact fun hmem => hnil (List.mem_append_left _ hmem)
  have hpathFull : [] ∉ (stem segs ++ ["connection".toList] ++ [[]]).dropLast := by
    rw [List.dropLast_concat]
    exact fun hmem => hnil (List.mem_append_left _ hmem)
  rw [connectionGet_of_path hpath hfull hpush hpathFull, List.append_assoc,
    Url.pathChars_append, Url.pathChars_stem hclean hfull, hpath]
  rfl

theorem not_confines_of_lost_word
    (h : e.connectionGet id =
      e.withPath (withoutEndSlash e.base.path.chars ++ "/connection/".toList)) :
    ¬e.Confines id := by
  rintro ⟨more, -, -, hmore⟩
  have hpaths := withPath_injective (h.symm.trans hmore)
  rw [List.append_assoc, List.append_right_inj] at hpaths
  have hlength := congrArg List.length hpaths
  simp at hlength

/-- The address of a connection is the base's with the path gone on by the endpoint's two words and
one segment at most, unless its id climbs; then the second word is lost. -/
theorem connectionGet_confined_iff (e : Endpoints) :
    (∀ baseUrl, of baseUrl = .ok e → e.Parsed) ∧
    (e.Parsed → (∀ segs, e.base.path = .segments segs → [] ∉ segs.dropLast) → ∀ id,
      e.baseUrl = e.withPath e.base.path.chars ∧
      (e.Confines id ↔ ¬Url.Climbs id.toList) ∧
      (Url.Climbs id.toList → e.connectionGet id =
        e.withPath (withoutEndSlash e.base.path.chars ++ "/connection/".toList))) := by
  refine ⟨fun _ => parsed_of, ?_⟩
  intro h hfull id
  obtain ⟨segs, hpath, hneat⟩ := h.path
  have hclimbs : Url.Climbs id.toList → e.connectionGet id =
      e.withPath (withoutEndSlash e.base.path.chars ++ "/connection/".toList) :=
    connectionGet_of_climbs hpath hneat.slashless (hfull segs hpath)
  refine ⟨rfl, ⟨?_, ?_⟩, hclimbs⟩
  · intro hconfines hc
    exact not_confines_of_lost_word (hclimbs hc) hconfines
  · exact confines_of_not_climbs hpath hneat.slashless (hfull segs hpath)

def Sample.nested : Endpoints :=
  ⟨⟨"https".toList, some ⟨"u".toList, none, .name "host".toList, some 8443⟩,
    .segments ["api".toList, "v1".toList, []], some "q=1".toList, some "top".toList⟩⟩

theorem mixed_id_confined :
    of " HTTPS://u@HOST:8443/x/../api/v1/?q=1#top" = .ok Sample.nested ∧
    Sample.nested.Confines "..\t/..\\%2e?é#\n." ∧
    Sample.nested.connectionGet "..\t/..\\%2e?é#\n." =
      "https://u@host:8443/api/v1/connection/get/..%2F..%5C%252e%3F%C3%A9%23.?q=1#top" := by
  have hof : of " HTTPS://u@HOST:8443/x/../api/v1/?q=1#top" = .ok Sample.nested := by
    rfl
  have hfull : ∀ segs, Sample.nested.base.path = .segments segs → [] ∉ segs.dropLast := by
    rintro segs ⟨⟩
    decide
  have hstays : ¬Url.Climbs "..\t/..\\%2e?é#\n.".toList := by decide +kernel
  obtain ⟨hparsed, hall⟩ := connectionGet_confined_iff Sample.nested
  obtain ⟨-, hconfined, -⟩ := hall (hparsed _ hof) hfull "..\t/..\\%2e?é#\n."
  exact ⟨hof, hconfined.2 hstays, by decide +kernel⟩

def Sample.bare : Endpoints :=
  ⟨⟨"http".toList, some ⟨[], none, .ipv4 0x7F000001, some 5175⟩, .segments [[]], none, none⟩⟩

/-- Two dots with a tab between them climb out of the endpoint. -/
theorem tabbed_dots_not_confined :
    of defaultUrl = .ok Sample.bare ∧
    (∀ segs, Sample.bare.base.path = .segments segs → [] ∉ segs.dropLast) ∧
    Sample.bare.connectionGet ".\t." = "http://127.0.0.1:5175/connection/" ∧
    ¬Sample.bare.Confines ".\t." := by
  refine ⟨rfl, ?_, by decide +kernel, not_confines_of_lost_word (by decide +kernel)⟩
  rintro segs ⟨⟩
  decide

end Backend.Endpoints

end ClusterConsole
