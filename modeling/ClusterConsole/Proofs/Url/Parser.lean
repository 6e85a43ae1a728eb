import ClusterConsole.Proofs.Url.Path
import ClusterConsole.Proofs.Url.Text

/-!
# URLs that were read

A URL that was read is put together in one of a few ways. So no segment of its path holds a slash, a
file path begins with no empty segment, and there is no mark of query or fragment before these.
-/

namespace ClusterConsole.Url

variable {scheme cs : List Char} {u : Url} {segs : Segments}

inductive Built (scheme : List Char) : Url → Prop where
  | hosted {authority : Authority} (front path rest : List Char)
    (hfamily : familyOf scheme ≠ .file) (hauthority : authorityOf scheme front = .ok authority) :
    Built scheme (assemble scheme (some authority) (pathAfterHost (familyOf scheme) path) rest)
  | hostless (path rest : List Char) (hfamily : familyOf scheme = .plain) :
    Built scheme (assemble scheme none (.segments (pathOf .plain path)) rest)
  | pathless (path rest : List Char) : Built scheme (assemble scheme none (.text path) rest)
  | file {host : Host} (path rest : List Char) (hfamily : familyOf scheme = .file)
    (hhost : Unmarked host.chars) : Built scheme (assembleFile scheme host path rest)

theorem afterSlashes_built (hfamily : familyOf scheme ≠ .file)
    (h : afterSlashes scheme cs = .ok u) : Built scheme u := by
  unfold afterSlashes at h
  extract_lets family front rest at h
  split at h
  · cases h
  · obtain ⟨authority, hauthority, hu⟩ := bind_eq_ok_iff.1 h
    cases hu
    exact .hosted _ _ _ hfamily hauthority

theorem plainUrl_built (hfamily : familyOf scheme = .plain) (h : plainUrl scheme cs = .ok u) :
    Built scheme u := by
  unfold plainUrl at h
  split at h
  · exact afterSlashes_built (by rw [hfamily]; decide) h
  · cases h
    exact .hostless _ _ hfamily
  · cases h
    exact .pathless _ _

theorem fileHost_unmarked {host : Host} {text path : List Char}
    (h : fileHost text path = .ok host) : Unmarked host.chars := by
  unfold fileHost at h
  split at h
  · cases h
    exact unmarked_nil
  · obtain ⟨read, hread, hhost⟩ := bind_eq_ok_iff.1 h
    extract_lets drive at hhost
    have hhost' : (if read == .name localHost || drive then Host.name [] else read) = host :=
      Except.ok.inj hhost
    split at hhost'
    · subst hhost'
      exact unmarked_nil
    · subst hhost'
      exact Host.unmarked_of_parse hread

theorem fileUrl_built (hfamily : familyOf scheme = .file) (h : fileUrl scheme cs = .ok u) :
    Built scheme u := by
  unfold fileUrl at h
  extract_lets rest at h
  split at h
  · split at h
    · extract_lets hostText at h
      split at h
      · cases h
        exact .file _ _ hfamily unmarked_nil
      · obtain ⟨host, hhost, hu⟩ := bind_eq_ok_iff.1 h
        cases hu
        exact .file _ _ hfamily (fileHost_unmarked hhost)
    · cases h
      exact .file _ _ hfamily unmarked_nil
  · cases h
    exact .file _ _ hfamily unmarked_nil

theorem scheme?_unmarked {rest : List Char} (h : scheme? cs = some (scheme, rest)) :
    Unmarked scheme := by
  have hmark : ∀ c, isSchemeChar c = true → isTailMark c = false := by
    intro c hc
    rw [Bool.eq_false_iff, ne_eq, isTailMark_eq_true_iff]
    rintro (rfl | rfl) <;> exact absurd hc (by decide)
  unfold scheme? at h
  split at h
  · split at h
    · cases h
    · split at h
      · cases h
        exact unmarked_lowered fun c hc => hmark c (List.all_eq_true.1 List.all_takeWhile c hc)
      · cases h
  · cases h

theorem parse_built {text : String} (h : parse text = .ok u) :
    ∃ scheme, Unmarked scheme ∧ Built scheme u := by
  unfold parse parseChars at h
  split at h
  · cases h
  · next scheme rest hscheme =>
    refine ⟨scheme, scheme?_unmarked hscheme, ?_⟩
    split at h
    · next hfamily => exact fileUrl_built hfamily h
    · next hfamily => exact afterSlashes_built (by rw [hfamily]; decide) h
    · next hfamily => exact plainUrl_built hfamily h

theorem Built.scheme_eq (h : Built scheme u) : u.scheme = scheme := by
  cases h <;> rfl

theorem Built.authority_unmarked {a : Authority} (h : Built scheme u) (ha : u.authority = some a) :
    Unmarked a.chars := by
  cases h with
  | hosted front path rest _ hauthority =>
    cases ha
    exact unmarked_of_authorityOf hauthority
  | hostless path rest _ => cases ha
  | pathless path rest => cases ha
  | file path rest _ hhost =>
    cases ha
    exact Authority.unmarked_chars unmarked_nil
      (fun p hp => absurd hp (Option.not_mem_none p)) hhost

theorem Built.segments_cases (h : Built scheme u) (hpath : u.path = .segments segs) :
    segs = [] ∨ segs = [[]] ∨ ∃ cs, segs = pathOf (familyOf scheme) cs := by
  cases h with
  | hosted front path rest _ _ =>
    have hafter : pathAfterHost (familyOf scheme) path = .segments segs := hpath
    unfold pathAfterHost at hafter
    split at hafter
    · cases hafter
      cases (familyOf scheme).isSpecial
      · exact .inl rfl
      · exact .inr (.inl rfl)
    · cases hafter
      exact .inr (.inr ⟨_, rfl⟩)
  | hostless path rest hfamily =>
    cases hpath
    rw [hfamily]
    exact .inr (.inr ⟨path, rfl⟩)
  | pathless path rest => cases hpath
  | file path rest hfamily _ =>
    cases hpath
    rw [hfamily]
    exact .inr (.inr ⟨path, rfl⟩)

/-- What holds of every path that was read. -/
structure Neat (family : Family) (segs : Segments) : Prop where
  slashless : Slashless segs
  queryless : Lacks '?' segs
  fragmentless : Lacks '#' segs
  rooted : segs = [[]] ∨ Rooted family segs

theorem neat_nil (family : Family) : Neat family [] := by
  refine ⟨lacks_nil _, lacks_nil _, lacks_nil _, .inr ?_⟩
  exact rooted_of_no_nil List.not_mem_nil

theorem neat_singleton_nil (family : Family) : Neat family [[]] :=
  ⟨lacks_singleton List.not_mem_nil, lacks_singleton List.not_mem_nil,
    lacks_singleton List.not_mem_nil, .inl rfl⟩

theorem pathOf_neat (family : Family) (cs : List Char) : Neat family (pathOf family cs) := by
  refine ⟨pathOf_slashless family cs, ?_, ?_, pathOf_rooted family cs⟩
  · exact pathOf_lacks_of_mem_pathSet (by decide) (by decide) (by decide) (by decide) family cs
  · exact pathOf_lacks_of_mem_pathSet (by decide) (by decide) (by decide) (by decide) family cs

theorem parse_neat {text : String} (h : parse text = .ok u) (hpath : u.path = .segments segs) :
    Neat u.family segs := by
  obtain ⟨scheme, -, hbuilt⟩ := parse_built h
  rw [family, hbuilt.scheme_eq]
  rcases hbuilt.segments_cases hpath with rfl | rfl | ⟨cs, rfl⟩
  · exact neat_nil _
  · exact neat_singleton_nil _
  · exact pathOf_neat _ cs

theorem parse_scheme_unmarked {text : String} (h : parse text = .ok u) : Unmarked u.scheme := by
  obtain ⟨scheme, hscheme, hbuilt⟩ := parse_built h
  rwa [hbuilt.scheme_eq]

theorem parse_authority_unmarked {text : String} {a : Authority} (h : parse text = .ok u)
    (ha : u.authority = some a) : Unmarked a.chars := by
  obtain ⟨scheme, -, hbuilt⟩ := parse_built h
  exact hbuilt.authority_unmarked ha

theorem unmarked_pathChars (hquery : Lacks '?' segs) (hfragment : Lacks '#' segs) :
    Unmarked (pathChars segs) := by
  intro c hc
  obtain ⟨s, hs, hmem⟩ := List.mem_flatMap.1 hc
  rcases List.mem_cons.1 hmem with rfl | hmem
  · decide
  · exact unmarked_iff.2 ⟨hquery s hs, hfragment s hs⟩ c hmem

theorem unmarked_authorityChars (h : ∀ a, u.authority = some a → Unmarked a.chars) :
    Unmarked u.authorityChars := by
  unfold authorityChars
  cases ha : u.authority with
  | some a => exact unmarked_cons.2 ⟨by decide, unmarked_cons.2 ⟨by decide, h a ha⟩⟩
  | none =>
    split
    · next heq => cases heq
    · exact unmarked_iff.2 ⟨by decide, by decide⟩
    · exact unmarked_nil

theorem lastSegment_text {s : List Char} (hscheme : Unmarked u.scheme)
    (hauthority : ∀ a, u.authority = some a → Unmarked a.chars)
    (hpath : u.path = .segments (segs ++ [s])) (hslash : '/' ∉ s)
    (hquery : Lacks '?' (segs ++ [s])) (hfragment : Lacks '#' (segs ++ [s])) :
    lastSegment u.text.toList = s := by
  have hfront : Unmarked (u.scheme ++ ':' :: u.authorityChars ++ pathChars segs) := by
    rw [unmarked_append, unmarked_append, unmarked_cons]
    refine ⟨⟨hscheme, by decide, unmarked_authorityChars hauthority⟩, unmarked_pathChars ?_ ?_⟩
    · exact hquery.sublist (List.sublist_append_left segs [s])
    · exact hfragment.sublist (List.sublist_append_left segs [s])
  have hs : Unmarked s := unmarked_iff.2 ⟨hquery s (by simp), hfragment s (by simp)⟩
  have htail : ∀ c ∈ (u.queryChars ++ u.fragmentChars).head?, isTailMark c = true := by
    unfold queryChars fragmentChars
    cases u.query with
    | some q =>
      rintro c ⟨⟩
      decide
    | none =>
      cases u.fragment with
      | some f =>
        rintro c ⟨⟩
        decide
      | none =>
        rintro c ⟨⟩
  have hchars : u.text.toList = u.scheme ++ ':' :: u.authorityChars ++ pathChars segs ++ '/' :: s ++
      (u.queryChars ++ u.fragmentChars) := by
    have hone : pathChars [s] = '/' :: s := by simp [pathChars]
    rw [text, String.toList_ofList, chars, hpath, Path.chars, pathChars_append, hone]
    simp only [List.append_assoc]
  rw [hchars, lastSegment_eq hfront hs hslash htail]

end ClusterConsole.Url
