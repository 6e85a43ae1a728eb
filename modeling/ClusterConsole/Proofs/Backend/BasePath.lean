import ClusterConsole.Proofs.Backend.Endpoints

/-!
# Endpoints behind a base path

The addresses that are the same for all calls are the base with two words behind its path, and the
slash at the end of that path, if there is one, does not count: bases that differ only in it have
the same endpoints.
-/

namespace ClusterConsole.Backend.Endpoints

open Url (Segments Slashless pathChars stem withoutEndSlash)

variable {e e' : Endpoints} {segs : Segments} {words : List String}

def fixed (e : Endpoints) : List String :=
  [e.objectsQuery, e.objectsSearch, e.schemaClass, e.schemaQuery, e.connectionList,
    e.connectionTest]

def fixedWords : List (List String) :=
  [["objects", "query"], ["objects", "search"], ["schema", "class"], ["schema", "query"],
    ["connection", "list"], ["connection", "test"]]

theorem fixed_eq (e : Endpoints) : e.fixed = fixedWords.map e.join := rfl

theorem fixedWords_words : ∀ words ∈ fixedWords, ∀ w ∈ words.map String.toList, Url.IsWord w := by
  decide

theorem fixedWords_ne_nil : ∀ words ∈ fixedWords, words.map String.toList ≠ [] := by decide

/-- The base with these words behind its path, where the slash at its end is left out. -/
def behind (e : Endpoints) (words : List String) : String :=
  e.withPath (withoutEndSlash e.base.path.chars ++ pathChars (words.map String.toList))

theorem join_of_words (hpath : e.base.path = .segments segs) (hclean : Slashless segs)
    (hfull : [] ∉ segs.dropLast) (hwords : ∀ w ∈ words.map String.toList, Url.IsWord w)
    (hne : words.map String.toList ≠ []) : e.join words = e.behind words := by
  have hstem : [] ∉ stem segs := Url.nil_not_mem_stem hfull
  have hextend : Url.extend e.base.family (Url.dropEmptyEnd segs) (words.map String.toList) =
      stem segs ++ words.map String.toList :=
    Url.extend_words (Url.rooted_of_no_nil hstem) hwords hne
  have hpathFull : [] ∉ (stem segs ++ words.map String.toList).dropLast := by
    intro hmem
    rcases List.mem_append.1 ((List.dropLast_sublist _).subset hmem) with hmem | hmem
    · exact hstem hmem
    · exact Url.nil_not_mem_words hwords hmem
  rw [join_of_path hpath hfull hextend hpathFull, Url.pathChars_append,
    Url.pathChars_stem hclean hfull, behind, hpath]
  rfl

def withSegments (e : Endpoints) (segs : Segments) : String :=
  String.ofList (e.base.scheme ++ ':' ::
    ({ e.base with path := .segments segs } : Url).authorityChars ++ pathChars segs ++
      e.base.queryChars ++ e.base.fragmentChars)

theorem join_of_segments (hpath : e.base.path = .segments segs)
    (hneat : Url.Neat e.base.family segs) (hwords : ∀ w ∈ words.map String.toList, Url.IsWord w)
    (hne : words.map String.toList ≠ []) :
    e.join words = e.withSegments (stem segs ++ words.map String.toList) := by
  have hextend : Url.extend e.base.family (Url.dropEmptyEnd segs) (words.map String.toList) =
      stem segs ++ words.map String.toList :=
    Url.extend_words (Url.stem_rooted hneat.rooted) hwords hne
  rw [join, url, Url.join, hpath]
  dsimp only
  rw [hextend]
  rfl

/-- The address has everything of the base but its path, and that goes on with these words behind
the slash at its end or without one. Empty segments that come before its last one stay. -/
structure Reaches (e : Endpoints) (words : List String) (address : String) : Prop where
  segments : e.Parsed → ∀ segs, e.base.path = .segments segs →
    address = e.withSegments (stem segs ++ words.map String.toList)
  behind : e.Parsed → (∀ segs, e.base.path = .segments segs → [] ∉ segs.dropLast) →
    address = e.behind words

theorem join_reaches (e : Endpoints) (hwords : ∀ w ∈ words.map String.toList, Url.IsWord w)
    (hne : words.map String.toList ≠ []) : e.Reaches words (e.join words) := by
  refine ⟨?_, ?_⟩
  · intro h segs hpath
    obtain ⟨segs', hpath', hneat⟩ := h.path
    obtain rfl := Url.Path.segments.inj (hpath.symm.trans hpath')
    exact join_of_segments hpath hneat hwords hne
  · intro h hfull
    obtain ⟨segs, hpath, hneat⟩ := h.path
    exact join_of_words hpath hneat.slashless (hfull segs hpath) hwords hne

theorem objectsQuery_reaches (e : Endpoints) : e.Reaches ["objects", "query"] e.objectsQuery :=
  e.join_reaches (by decide) (by decide)

theorem objectsSearch_reaches (e : Endpoints) : e.Reaches ["objects", "search"] e.objectsSearch :=
  e.join_reaches (by decide) (by decide)

/-- The one base is the other but for a slash behind a path that ends with none. -/
structure Slashed (e e' : Endpoints) : Prop where
  others : e'.base = { e.base with path := e'.base.path }
  slash : e'.base.path.chars = e.base.path.chars ++ ['/']
  bare : e.base.path.chars.getLast? ≠ some '/'

theorem Slashed.segments {segs' : Segments} (h : Slashed e e')
    (hpath : e.base.path = .segments segs) (hclean : Slashless segs)
    (hpath' : e'.base.path = .segments segs') (hclean' : Slashless segs') :
    segs' = segs ++ [[]] := by
  apply Url.pathChars_injective hclean' (Url.lacks_append hclean (Url.lacks_singleton (by simp)))
  rw [Url.pathChars_append]
  have hslash := h.slash
  rw [hpath, hpath'] at hslash
  exact hslash

theorem Slashed.stem_eq (h : Slashed e e') (hpath : e.base.path = .segments segs) :
    stem (segs ++ [[]]) = stem segs := by
  apply Url.stem_slash
  intro hlast
  obtain ⟨init, rfl⟩ := List.getLast?_eq_some_iff.1 hlast
  apply h.bare
  rw [hpath, Url.Path.chars, Url.pathChars_append]
  exact List.getLast?_concat

theorem Slashed.join_eq (h : Slashed e e') (he : e.Parsed) (he' : e'.Parsed) {word : String}
    (hword : Url.IsWord word.toList) (more : List String) :
    e'.join (word :: more) = e.join (word :: more) := by
  obtain ⟨segs, hpath, hneat⟩ := he.path
  obtain ⟨segs', hpath', hneat'⟩ := he'.path
  have hsegs := h.segments hpath hneat.slashless hpath' hneat'.slashless
  subst hsegs
  have hrooted : Url.Rooted e.base.family (stem segs) := Url.stem_rooted hneat.rooted
  have hextend := Url.extend_of_stem hrooted (h.stem_eq hpath) hword (more.map String.toList)
  have hurl : e'.url (word :: more) = e.url (word :: more) := by
    rw [url, url, Url.join, Url.join, hpath, hpath', h.others, List.map_cons]
    exact congrArg (fun p => { e.base with path := .segments p }) hextend
  rw [join, join, hurl]

/-- Every address that is the same for all calls lies behind the base path, which has no empty
segment but perhaps at its end. Bases that differ only by a slash at the end have the same
endpoints, those of single connections included. -/
theorem endpoints_behind_base (e : Endpoints) :
    (∀ baseUrl, of baseUrl = .ok e → e.Parsed) ∧
    e.baseUrl = e.withPath e.base.path.chars ∧
    (e.Parsed → (∀ segs, e.base.path = .segments segs → [] ∉ segs.dropLast) →
      e.fixed = fixedWords.map e.behind) ∧
    (e.Parsed → ∀ e' : Endpoints, e'.Parsed → Slashed e e' →
      e'.fixed = e.fixed ∧ ∀ id, e'.connectionGet id = e.connectionGet id) := by
  refine ⟨fun _ => parsed_of, rfl, ?_, ?_⟩
  · intro h hfull
    rw [fixed_eq]
    apply List.map_congr_left
    intro words hwords
    exact (e.join_reaches (fixedWords_words words hwords) (fixedWords_ne_nil words hwords)).behind
      h hfull
  · intro h e' he' hslashed
    have hjoin : ∀ word more, Url.IsWord word.toList →
        e'.join (word :: more) = e.join (word :: more) :=
      fun word more hword => hslashed.join_eq h he' hword more
    refine ⟨?_, fun id => hjoin "connection" ["get", id] (by decide)⟩
    rw [fixed_eq, fixed_eq]
    apply List.map_congr_left
    intro words hwords
    cases words with
    | nil => exact absurd rfl (fixedWords_ne_nil [] hwords)
    | cons word more => exact hjoin word more (fixedWords_words _ hwords _ (.head _))

def Sample.pathless : Endpoints :=
  ⟨⟨"web+app".toList, some ⟨"u".toList, some "p".toList, .name "h".toList, some 1⟩, .segments [],
    some "q=/a".toList, some "b/".toList⟩⟩

def Sample.rooted : Endpoints :=
  ⟨{ Sample.pathless.base with path := .segments [[]] }⟩

theorem pathless_base_slashed :
    of "Web+App://u:p@h:1?q=/a#b/" = .ok Sample.pathless ∧
    of " web+app://u:p@h:1/?q=/a#b/" = .ok Sample.rooted ∧
    Slashed Sample.pathless Sample.rooted ∧
    Sample.pathless.fixed =
      ["web+app://u:p@h:1/objects/query?q=/a#b/", "web+app://u:p@h:1/objects/search?q=/a#b/",
        "web+app://u:p@h:1/schema/class?q=/a#b/", "web+app://u:p@h:1/schema/query?q=/a#b/",
        "web+app://u:p@h:1/connection/list?q=/a#b/", "web+app://u:p@h:1/connection/test?q=/a#b/"] ∧
    Sample.rooted.fixed = Sample.pathless.fixed := by
  have hof : of "Web+App://u:p@h:1?q=/a#b/" = .ok Sample.pathless := by
    rfl
  have hof' : of " web+app://u:p@h:1/?q=/a#b/" = .ok Sample.rooted := by
    rfl
  have hfull : ∀ segs, Sample.pathless.base.path = .segments segs → [] ∉ segs.dropLast := by
    rintro segs ⟨⟩
    decide
  have hslashed : Slashed Sample.pathless Sample.rooted := ⟨rfl, rfl, by decide⟩
  obtain ⟨hparsed, -, hbehind, hsame⟩ := endpoints_behind_base Sample.pathless
  have hslashedParsed : Sample.rooted.Parsed := (endpoints_behind_base Sample.rooted).1 _ hof'
  refine ⟨hof, hof', hslashed, ?_, (hsame (hparsed _ hof) _ hslashedParsed hslashed).1⟩
  rw [hbehind (hparsed _ hof) hfull]
  decide +kernel

end ClusterConsole.Backend.Endpoints
