import ClusterConsole.Proofs.Url.Percent

/-!
# Paths that were read and paths that are extended

No segment of a path that was read holds a slash, nor a mark of query or fragment, so the text of
the path ends with a slash only if its last segment is empty. What is put behind such a path leaves
the segments before it as they are.
-/

namespace ClusterConsole.Url

variable {family : Family} {segs before : Segments} {s : List Char} {c : Char}

def Lacks (c : Char) (segs : Segments) : Prop := ∀ s ∈ segs, c ∉ s

abbrev Slashless (segs : Segments) : Prop := Lacks '/' segs

theorem lacks_nil (c : Char) : Lacks c [] := fun _ hs => absurd hs List.not_mem_nil

theorem lacks_append {more : Segments} (h : Lacks c segs) (hmore : Lacks c more) :
    Lacks c (segs ++ more) := by
  intro s hs
  rcases List.mem_append.1 hs with hs | hs
  · exact h s hs
  · exact hmore s hs

theorem lacks_singleton (h : c ∉ s) : Lacks c [s] := by
  intro t ht
  rwa [List.mem_singleton.1 ht]

theorem Lacks.sublist {fewer : Segments} (h : Lacks c segs) (hfewer : fewer.Sublist segs) :
    Lacks c fewer :=
  fun s hs => h s (hfewer.subset hs)

theorem climb_sublist (segs : Segments) : (climb segs).Sublist segs := by
  unfold climb
  split
  · split
    · exact List.Sublist.refl segs
    · exact List.dropLast_sublist segs
  · exact List.nil_sublist segs

theorem normalizeDrive_lacks (hcolon : c ≠ ':') (before : Segments) (h : c ∉ s) :
    c ∉ normalizeDrive family before s := by
  unfold normalizeDrive
  split
  · split
    · simp only [List.mem_cons, not_or] at h ⊢
      exact ⟨h.1, hcolon, List.not_mem_nil⟩
    · exact h
  · exact h

theorem splitDrive_lacks (hcolon : c ≠ ':') (before : Segments) (h : c ∉ s) :
    Lacks c (splitDrive family before s) := by
  unfold splitDrive
  split
  · split
    · simp only [List.mem_cons, not_or] at h
      refine List.forall_mem_cons.2 ⟨?_, lacks_singleton ?_⟩
      · simp only [List.mem_cons, not_or]
        exact ⟨h.1, hcolon, List.not_mem_nil⟩
      · simp only [List.mem_cons, not_or]
        exact h.2.2
    · exact lacks_singleton h
  · exact lacks_singleton h

theorem addInner_lacks (hcolon : c ≠ ':') (h : Lacks c before) (hs : c ∉ s) :
    Lacks c (addInner family before s) := by
  unfold addInner
  split
  · exact h.sublist (climb_sublist before)
  · split
    · exact h
    · exact lacks_append h (splitDrive_lacks hcolon _ (normalizeDrive_lacks hcolon _ hs))

theorem addLast_lacks (hcolon : c ≠ ':') (h : Lacks c before) (hs : c ∉ s) :
    Lacks c (addLast family before s) := by
  unfold addLast
  split
  · exact lacks_append (h.sublist (climb_sublist before)) (lacks_singleton List.not_mem_nil)
  · split
    · exact lacks_append h (lacks_singleton List.not_mem_nil)
    · exact lacks_append h (splitDrive_lacks hcolon _ (normalizeDrive_lacks hcolon _ hs))

theorem addAll_lacks (hcolon : c ≠ ':') (h : Lacks c before) (hsegs : Lacks c segs) :
    Lacks c (addAll family before segs) := by
  induction segs generalizing before with
  | nil => exact h
  | cons s rest ih =>
    obtain ⟨hs, hrest⟩ := List.forall_mem_cons.1 hsegs
    cases rest with
    | nil => exact addLast_lacks hcolon h hs
    | cons t rest => exact ih (addInner_lacks hcolon h hs) hrest

theorem trimFile_lacks (h : Lacks c segs) : Lacks c (trimFile family segs) := by
  unfold trimFile
  split
  · split
    · exact lacks_singleton List.not_mem_nil
    · exact h.sublist (List.dropWhile_sublist _)
  · exact h

/-- A drive letter's bar turns into a colon; beyond that a path has only what its parts have when
they are encoded. -/
theorem pathOf_lacks (hcolon : c ≠ ':') {cs : List Char}
    (h : ∀ s ∈ splitSlashes family cs, c ∉ encode pathSet s) : Lacks c (pathOf family cs) := by
  refine trimFile_lacks (addAll_lacks hcolon (lacks_nil c) ?_)
  intro s hs
  obtain ⟨t, ht, rfl⟩ := List.mem_map.1 hs
  exact h t ht

theorem splitSlashes_slashless (family : Family) (cs : List Char) :
    Slashless (splitSlashes family cs) := by
  induction cs with
  | nil => exact lacks_singleton List.not_mem_nil
  | cons c cs ih =>
    rw [splitSlashes]
    split
    · exact List.forall_mem_cons.2 ⟨List.not_mem_nil, ih⟩
    · next hc =>
      have hne : '/' ≠ c := by
        rintro rfl
        exact hc (by simp [isSlash])
      split
      · next part parts hsplit =>
        rw [hsplit] at ih
        obtain ⟨hpart, hparts⟩ := List.forall_mem_cons.1 ih
        exact List.forall_mem_cons.2 ⟨by simp [hne, hpart], hparts⟩
      · exact lacks_singleton (by simp [hne])

theorem pathOf_slashless (family : Family) (cs : List Char) : Slashless (pathOf family cs) :=
  pathOf_lacks (by decide) fun t ht =>
    not_mem_encode (splitSlashes_slashless family cs t ht) (by decide) (by decide)

theorem pathOf_lacks_of_mem_pathSet (hset : c ∈ pathSet) (hcolon : c ≠ ':') (hpercent : c ≠ '%')
    (hhex : Text.isHexDigit c = false) (family : Family) (cs : List Char) :
    Lacks c (pathOf family cs) :=
  pathOf_lacks hcolon fun _ _ => not_mem_encode_of_mem_set hset hpercent hhex

/-- A file path begins with no empty segment. -/
def Rooted (family : Family) (segs : Segments) : Prop := family = .file → segs.head? ≠ some []

theorem rooted_of_no_nil (h : [] ∉ segs) : Rooted family segs :=
  fun _ hhead => h (List.mem_of_head? hhead)

theorem Rooted.append {more : Segments} (h : Rooted family segs) (hne : segs ≠ []) :
    Rooted family (segs ++ more) := by
  cases segs with
  | nil => exact absurd rfl hne
  | cons first rest => exact h

theorem Rooted.concat (h : Rooted family segs) (hfirst : segs ≠ [] ∨ s ≠ []) :
    Rooted family (segs ++ [s]) := by
  cases segs with
  | nil =>
    rintro - hhead
    rcases hfirst with hne | hne
    · exact hne rfl
    · exact hne (Option.some.inj hhead)
  | cons first rest => exact h

theorem Rooted.of_isPrefix {front : Segments} (h : Rooted family segs) (hfront : front <+: segs) :
    Rooted family front := by
  intro hfamily hhead
  obtain ⟨rest, rfl⟩ := hfront
  cases front with
  | nil => cases hhead
  | cons first more => exact h hfamily hhead

theorem trimFile_rooted (segs : Segments) :
    trimFile family segs = [[]] ∨ Rooted family (trimFile family segs) := by
  unfold trimFile
  split
  · split
    · exact .inl rfl
    · next hdrop =>
      refine .inr ?_
      intro _ hhead
      have hfirst := List.head?_dropWhile_not (·.isEmpty) segs
      rw [hhead] at hfirst
      cases hfirst
  · next hfamily => exact .inr fun hfile => absurd hfile hfamily

@[simp] theorem base_concat (h : s ≠ []) : base (segs ++ [s]) = segs ++ [s] := by
  rw [base, if_neg]
  intro hone
  have hlast := congrArg List.getLast? hone
  rw [List.getLast?_concat] at hlast
  exact h (Option.some.inj hlast)

theorem trimFile_of_rooted (h : Rooted family segs) (hne : segs ≠ []) :
    trimFile family segs = segs := by
  unfold trimFile
  split
  · next hfamily =>
    cases segs with
    | nil => exact absurd rfl hne
    | cons s more =>
      have hs : s ≠ [] := by
        rintro rfl
        exact h hfamily rfl
      rw [List.dropWhile_cons_of_neg (by simpa using hs)]
  · rfl

theorem pathOf_rooted (family : Family) (cs : List Char) :
    pathOf family cs = [[]] ∨ Rooted family (pathOf family cs) := trimFile_rooted _

def withoutEndSlash (cs : List Char) : List Char :=
  if cs.getLast? = some '/' then cs.dropLast else cs

/-- The segments that remain when others are put behind them. -/
def stem (segs : Segments) : Segments := base (dropEmptyEnd segs)

theorem dropEmptyEnd_concat (hne : segs ≠ []) (last : List Char) :
    dropEmptyEnd (segs ++ [last]) = if last = [] then segs else segs ++ [last] := by
  obtain ⟨s, init, rfl⟩ := List.exists_cons_of_ne_nil hne
  cases hinit : init ++ [last] with
  | nil => simp at hinit
  | cons t more =>
    have hlong : dropEmptyEnd (s :: t :: more) =
        if (s :: t :: more).getLast? = some [] then (s :: t :: more).dropLast
        else s :: t :: more := rfl
    rw [List.cons_append, hinit, hlong, ← hinit, ← List.cons_append, List.getLast?_concat,
      List.dropLast_concat]
    simp only [Option.some.injEq]

theorem dropEmptyEnd_of_last (h : segs.getLast? ≠ some []) : dropEmptyEnd segs = segs := by
  unfold dropEmptyEnd
  split
  · rfl
  · rfl
  · exact if_neg h

theorem base_of_no_nil (h : [] ∉ segs) : base segs = segs := by
  rw [base, if_neg]
  rintro rfl
  exact h (.head _)

theorem stem_concat {init : Segments} {last : List Char} (h : [] ∉ init) :
    stem (init ++ [last]) = if last = [] then init else init ++ [last] := by
  cases init with
  | nil =>
    change base [last] = _
    by_cases hlast : last = [] <;> simp [base, hlast]
  | cons s init =>
    rw [stem, dropEmptyEnd_concat (List.cons_ne_nil s init)]
    split
    · exact base_of_no_nil h
    · next hlast =>
      apply base_of_no_nil
      simp only [List.mem_append, List.mem_singleton, not_or]
      exact ⟨h, fun he => hlast he.symm⟩

theorem stem_slash (h : segs.getLast? ≠ some []) : stem (segs ++ [[]]) = stem segs := by
  rcases List.eq_nil_or_concat segs with rfl | ⟨init, last, hsegs⟩
  · rfl
  · have hne : segs ≠ [] := by
      rw [hsegs]
      simp
    rw [stem, stem, dropEmptyEnd_concat hne, if_pos rfl, dropEmptyEnd_of_last h]

theorem dropEmptyEnd_isPrefix (segs : Segments) : dropEmptyEnd segs <+: segs := by
  unfold dropEmptyEnd
  split
  · exact List.prefix_rfl
  · exact List.prefix_rfl
  · split
    · exact List.dropLast_prefix _
    · exact List.prefix_rfl

theorem stem_isPrefix (segs : Segments) : stem segs <+: segs := by
  rw [stem, base]
  split
  · exact List.nil_prefix
  · exact dropEmptyEnd_isPrefix segs

theorem stem_rooted (h : segs = [[]] ∨ Rooted family segs) : Rooted family (stem segs) := by
  rcases h with rfl | h
  · rintro - hhead
    cases hhead
  · exact h.of_isPrefix (stem_isPrefix segs)

theorem nil_not_mem_stem (h : [] ∉ segs.dropLast) : [] ∉ stem segs := by
  rcases List.eq_nil_or_concat segs with rfl | ⟨init, last, hsegs⟩
  · exact List.not_mem_nil
  · rw [List.concat_eq_append] at hsegs
    subst hsegs
    rw [List.dropLast_concat] at h
    rw [stem_concat h]
    split
    · exact h
    · next hlast =>
      simp only [List.mem_append, List.mem_singleton, not_or]
      exact ⟨h, fun he => hlast he.symm⟩

theorem pathChars_append (segs more : Segments) :
    pathChars (segs ++ more) = pathChars segs ++ pathChars more := List.flatMap_append

theorem splitSlashes_append {rest part : List Char} {parts : Segments} (hs : '/' ∉ s)
    (h : splitSlashes .plain rest = part :: parts) :
    splitSlashes .plain (s ++ rest) = (s ++ part) :: parts := by
  induction s with
  | nil => exact h
  | cons c s ih =>
    obtain ⟨hc, hs⟩ := not_or.1 (fun he => hs (List.mem_cons.2 he))
    have hplain : isSlash .plain c = false := by simp [isSlash, Family.isSpecial, Ne.symm hc]
    rw [List.cons_append, splitSlashes, hplain, if_neg Bool.false_ne_true, ih hs]
    rfl

theorem splitSlashes_pathChars (hs : '/' ∉ s) (h : Slashless segs) :
    splitSlashes .plain (s ++ pathChars segs) = s :: segs := by
  induction segs generalizing s with
  | nil =>
    have hnone : splitSlashes .plain (pathChars []) = [[]] := rfl
    rw [splitSlashes_append hs hnone, List.append_nil]
  | cons t more ih =>
    obtain ⟨ht, hmore⟩ := List.forall_mem_cons.1 h
    have hpath : pathChars (t :: more) = '/' :: (t ++ pathChars more) := List.flatMap_cons
    have hrest : splitSlashes .plain (pathChars (t :: more)) = [] :: t :: more := by
      rw [hpath, splitSlashes, if_pos (by decide), ih ht hmore]
    rw [splitSlashes_append hs hrest, List.append_nil]

theorem pathChars_injective {more : Segments} (h : Slashless segs) (hmore : Slashless more)
    (he : pathChars segs = pathChars more) : segs = more := by
  have hsplit := splitSlashes_pathChars List.not_mem_nil h
  rw [he, splitSlashes_pathChars List.not_mem_nil hmore] at hsplit
  exact (List.cons.inj hsplit).2.symm

theorem pathChars_stem (hclean : Slashless segs) (h : [] ∉ segs.dropLast) :
    pathChars (stem segs) = withoutEndSlash (pathChars segs) := by
  rcases List.eq_nil_or_concat segs with rfl | ⟨init, last, hsegs⟩
  · rfl
  · rw [List.concat_eq_append] at hsegs
    subst hsegs
    rw [List.dropLast_concat] at h
    have hone : pathChars [last] = '/' :: last := by simp [pathChars]
    rw [stem_concat h, withoutEndSlash, pathChars_append, hone]
    by_cases hlast : last = []
    · subst hlast
      rw [if_pos rfl, if_pos List.getLast?_concat, List.dropLast_concat]
    · have hend : (pathChars init ++ '/' :: last).getLast? = some (last.getLast hlast) := by
        rw [List.append_cons, List.getLast?_append, List.getLast?_eq_some_getLast hlast,
          Option.some_or]
      have hslash : last.getLast hlast ≠ '/' := by
        intro he
        exact hclean last (by simp) (he ▸ List.getLast_mem hlast)
      rw [if_neg hlast, hend, if_neg (by simpa using hslash), pathChars_append, hone]

namespace Family

def segmentSet (family : Family) : EncodeSet :=
  if family.isSpecial then specialSegmentSet else Url.segmentSet

theorem mem_segmentSet (family : Family) : ∀ c ∈ ['%', '/', '?', '#'], c ∈ family.segmentSet := by
  have hall : ['%', '/', '?', '#'].all (fun c => decide (c ∈ family.segmentSet)) = true := by
    cases family <;> decide
  exact fun c hc => of_decide_eq_true (List.all_eq_true.1 hall c hc)

theorem backslash_mem_segmentSet (h : family.isSpecial = true) : '\\' ∈ family.segmentSet := by
  rw [segmentSet, if_pos h]
  decide

theorem dot_not_mem_segmentSet (family : Family) : '.' ∉ family.segmentSet := by
  cases family <;> decide

theorem segmentSet_no_letter (family : Family) : ∀ c ∈ family.segmentSet, c.isAlpha = false := by
  have hall : family.segmentSet.all (!·.isAlpha) = true := by
    cases family <;> decide
  exact fun c hc => by simpa using List.all_eq_true.1 hall c hc

end Family

theorem map_encode_lacks (family : Family) (hc : c ∈ ['/', '?', '#']) (segs : Segments) :
    Lacks c (segs.map (encode family.segmentSet)) := by
  intro s hs
  obtain ⟨t, -, rfl⟩ := List.mem_map.1 hs
  have hset : c ∈ family.segmentSet := family.mem_segmentSet c (List.mem_cons_of_mem _ hc)
  simp only [List.mem_cons, List.not_mem_nil, or_false] at hc
  rcases hc with rfl | rfl | rfl <;> exact not_mem_encode_of_mem_set hset (by decide) (by decide)

theorem toNat_of_isAlpha {c : Char} (h : c.isAlpha = true) : 65 ≤ c.toNat ∧ c.toNat ≤ 122 := by
  rcases Bool.or_eq_true_iff.1 h with hupper | hlower
  · obtain ⟨hlow, hhigh⟩ := of_decide_eq_true hupper
    have hlow' : 65 ≤ c.toNat := hlow
    have hhigh' : c.toNat ≤ 90 := hhigh
    omega
  · obtain ⟨hlow, hhigh⟩ := Bool.and_eq_true_iff.1 hlower
    have hlow' : 97 ≤ c.toNat := of_decide_eq_true hlow
    have hhigh' : c.toNat ≤ 122 := of_decide_eq_true hhigh
    omega

theorem push_eq (hdots : ¬(s = ['.'] ∨ s = ['.', '.'])) :
    push family segs s = trimFile family
      (addLast family (base segs) (encode family.segmentSet (s.filter (!isIgnored ·)))) := by
  rw [push, if_neg hdots]
  rfl

theorem addLast_of_no_drive (hdrive : before ≠ [] ∨ ':' ∉ s ∧ '|' ∉ s)
    (hdouble : isDoubleDot s = false) (hsingle : isSingleDot s = false) :
    addLast family before s = before ++ [s] := by
  have hnormal : normalizeDrive family before s = s := by
    unfold normalizeDrive
    split
    · refine if_neg ?_
      rintro ⟨-, hnil, -⟩
      rcases hdrive with hne | ⟨-, hbar⟩
      · exact hne hnil
      · simp at hbar
    · rfl
  have hsplit : splitDrive family before s = [s] := by
    unfold splitDrive
    split
    · refine if_neg ?_
      rintro ⟨-, hnil, -⟩
      rcases hdrive with hne | ⟨hcolon, -⟩
      · exact hne hnil
      · simp at hcolon
    · rfl
  rw [addLast, if_neg (by simp [hdouble]), if_neg (by simp [hsingle]), hnormal, hsplit]

theorem isIgnored_of_isAlpha {c : Char} (h : c.isAlpha = true) : isIgnored c = false := by
  rw [Bool.eq_false_iff]
  intro hignored
  simp only [isIgnored, Bool.or_eq_true, beq_iff_eq] at hignored
  rcases hignored with (rfl | rfl) | rfl <;> exact absurd h (by decide)

theorem encodeChar_of_isAlpha {c : Char} (h : c.isAlpha = true) :
    encodeChar family.segmentSet c = [c] := by
  obtain ⟨hlow, hhigh⟩ := toNat_of_isAlpha h
  have hset : c ∉ family.segmentSet := by
    intro hmem
    rw [family.segmentSet_no_letter c hmem] at h
    cases h
  have hcontrol : isControl c = false := by
    simp only [isControl, Bool.or_eq_false_iff, decide_eq_false_iff_not, beq_eq_false_iff_ne]
    omega
  have hascii : ¬0x80 ≤ c.toNat := by omega
  simp [encodeChar, hcontrol, hascii, hset]

theorem not_mem_word (hletters : s.all Char.isAlpha = true) (hc : c.isAlpha = false) : c ∉ s := by
  intro hmem
  rw [List.all_eq_true.1 hletters c hmem] at hc
  cases hc

theorem encode_word (family : Family) (hletters : s.all Char.isAlpha = true) :
    encode family.segmentSet s = s := by
  rw [List.all_eq_true] at hletters
  have hchars : s.flatMap (encodeChar family.segmentSet) = s.flatMap fun c => [c] :=
    congrArg List.flatten
      (List.map_congr_left fun c hc => encodeChar_of_isAlpha (hletters c hc))
  rw [encode, hchars, List.flatMap_singleton']

theorem push_segment (family : Family) (h : Rooted family (base segs))
    (hdots : ¬(s = ['.'] ∨ s = ['.', '.'])) {t : List Char} (ht : s.filter (!isIgnored ·) = t)
    (hsingle : t ≠ ['.']) (hdouble : t ≠ ['.', '.'])
    (hfirst : base segs ≠ [] ∨ encode family.segmentSet t ≠ [] ∧
      ':' ∉ encode family.segmentSet t ∧ '|' ∉ encode family.segmentSet t) :
    push family segs s = base segs ++ [encode family.segmentSet t] := by
  have hpercent : '%' ∈ family.segmentSet := family.mem_segmentSet '%' (by decide)
  have hdouble' : isDoubleDot (encode family.segmentSet t) = false := by
    rw [Bool.eq_false_iff]
    exact fun he => hdouble ((isDoubleDot_encode hpercent family.dot_not_mem_segmentSet t).1 he)
  have hsingle' : isSingleDot (encode family.segmentSet t) = false := by
    rw [Bool.eq_false_iff]
    exact fun he => hsingle ((isSingleDot_encode hpercent family.dot_not_mem_segmentSet t).1 he)
  rw [push_eq hdots, ht, addLast_of_no_drive (hfirst.imp_right And.right) hdouble' hsingle']
  exact trimFile_of_rooted (h.concat (hfirst.imp_right And.left)) (by simp)

theorem push_single (h : Rooted family (base segs)) (hne : base segs ≠ [])
    (hdots : ¬(s = ['.'] ∨ s = ['.', '.'])) (hsingle : s.filter (!isIgnored ·) = ['.']) :
    push family segs s = base segs ++ [[]] := by
  have hpercent : '%' ∈ family.segmentSet := family.mem_segmentSet '%' (by decide)
  have hdot := (isSingleDot_encode hpercent family.dot_not_mem_segmentSet ['.']).2 rfl
  have hdouble : isDoubleDot (encode family.segmentSet ['.']) = false := by
    rw [Bool.eq_false_iff, ne_eq, isDoubleDot_encode hpercent family.dot_not_mem_segmentSet]
    decide
  rw [push_eq hdots, hsingle, addLast, if_neg (by simp [hdouble]), if_pos hdot]
  exact trimFile_of_rooted (h.append hne) (by simp)

/-- Two dots with tabs or line breaks in them take a segment away and leave an empty one behind. -/
theorem push_double (h : Rooted family (climb (base segs))) (hne : climb (base segs) ≠ [])
    (hdots : ¬(s = ['.'] ∨ s = ['.', '.'])) (hdouble : s.filter (!isIgnored ·) = ['.', '.']) :
    push family segs s = climb (base segs) ++ [[]] := by
  have hpercent : '%' ∈ family.segmentSet := family.mem_segmentSet '%' (by decide)
  have hdot := (isDoubleDot_encode hpercent family.dot_not_mem_segmentSet ['.', '.']).2 rfl
  rw [push_eq hdots, hdouble, addLast, if_pos hdot]
  exact trimFile_of_rooted (h.append hne) (by simp)

theorem push_word (family : Family) (h : Rooted family (base segs)) (hword : s ≠ [])
    (hletters : s.all Char.isAlpha = true) : push family segs s = base segs ++ [s] := by
  have hencode := encode_word family hletters
  have hother : ∀ c : Char, c.isAlpha = false → c ∉ s := fun c => not_mem_word hletters
  have hdot := hother '.' (by decide)
  have hsingle : s ≠ ['.'] := by
    rintro rfl
    simp at hdot
  have hdouble : s ≠ ['.', '.'] := by
    rintro rfl
    simp at hdot
  have hfilter : s.filter (!isIgnored ·) = s := by
    refine List.filter_eq_self.2 fun c hc => ?_
    simp [isIgnored_of_isAlpha (List.all_eq_true.1 hletters c hc)]
  have hsegment := push_segment family h (not_or.2 ⟨hsingle, hdouble⟩) hfilter hsingle hdouble
    (.inr (by rw [hencode]; exact ⟨hword, hother ':' (by decide), hother '|' (by decide)⟩))
  rwa [hencode] at hsegment

def IsWord (s : List Char) : Prop := s ≠ [] ∧ s.all Char.isAlpha = true

instance (s : List Char) : Decidable (IsWord s) := inferInstanceAs (Decidable (_ ∧ _))

theorem nil_not_mem_words {words : Segments} (hwords : ∀ w ∈ words, IsWord w) : [] ∉ words :=
  fun h => (hwords [] h).1 rfl

theorem extend_cons (family : Family) (segs : Segments) (s : List Char) (more : Segments) :
    extend family segs (s :: more) = extend family (push family segs s) more := rfl

theorem extend_words {words : Segments} (h : Rooted family (base segs))
    (hwords : ∀ w ∈ words, IsWord w) (hne : words ≠ []) :
    extend family segs words = base segs ++ words := by
  induction words generalizing segs with
  | nil => exact absurd rfl hne
  | cons w words ih =>
    obtain ⟨hw, hmore⟩ := List.forall_mem_cons.1 hwords
    rw [extend_cons, push_word family h hw.1 hw.2]
    cases words with
    | nil => rfl
    | cons v words =>
      have hbase : base (base segs ++ [w]) = base segs ++ [w] := base_concat hw.1
      have hrooted : Rooted family (base segs ++ [w]) := h.concat (.inr hw.1)
      rw [ih (hbase.symm ▸ hrooted) hmore (List.cons_ne_nil v words), hbase, List.append_assoc,
        List.singleton_append]

theorem extend_of_stem {segs' : Segments} (h : Rooted family (stem segs))
    (hstem : stem segs' = stem segs) (hs : IsWord s) (more : Segments) :
    extend family (dropEmptyEnd segs') (s :: more) =
      extend family (dropEmptyEnd segs) (s :: more) := by
  have hrooted : Rooted family (stem segs') := hstem.symm ▸ h
  rw [extend_cons, extend_cons, push_word family hrooted hs.1 hs.2, push_word family h hs.1 hs.2]
  exact congrArg (fun front => extend family (front ++ [s]) more) hstem

end ClusterConsole.Url
