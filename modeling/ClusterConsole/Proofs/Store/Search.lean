import ClusterConsole.Proofs.Store.Window
import ClusterConsole.Proofs.Text.Lowercase
import ClusterConsole.Proofs.Text.Trim

/-!
# Local search

The search compares texts in lowercase. A record that has the query in its id or its properties as
it is written is found if the capital sigmas of the query have the same forms there as in the query.
They have them everywhere if the query itself settles them, and for any other query there is a
record that has it and is missed.
-/

namespace ClusterConsole

namespace Record

def propertyChars (r : Record) : List Char := (Json.Value.object r.properties).chars

def Shows (r : Record) (part : List Char) : Prop :=
  part <:+: r.id.toList ∨ part <:+: r.propertyChars

/-- The part stands in the id or in the properties, and its capital sigmas have the same forms there
as in the part alone. -/
def ShowsAlike (r : Record) (part : List Char) : Prop :=
  ∃ before after, (r.id.toList = before ++ part ++ after ∨
    r.propertyChars = before ++ part ++ after) ∧ Text.FormsKept before.reverse part after

theorem Shows.alike {r : Record} {part : List Char} (h : r.Shows part)
    (hsteady : Text.Steady part) : r.ShowsAlike part := by
  rcases h with ⟨before, after, htext⟩ | ⟨before, after, htext⟩
  · exact ⟨before, after, .inl htext.symm, hsteady.formsKept _ _⟩
  · exact ⟨before, after, .inr htext.symm, hsteady.formsKept _ _⟩

end Record

namespace Store

variable {s : Store} {r : Record} {query : String} {needle text part : List Char}

theorem contains_iff : contains needle text = true ↔ needle <:+: text := by
  induction text with
  | nil => rw [contains, List.isEmpty_iff, List.infix_nil]
  | cons c cs ih =>
    rw [contains, Bool.or_eq_true, ih, List.isPrefixOf_iff_prefix, List.infix_cons_iff]

theorem matchesNeedle_iff : matchesNeedle needle r = true ↔
    needle <:+: Text.lowercaseChars r.id.toList ∨
    needle <:+: Text.lowercaseChars r.propertyChars := by
  rw [matchesNeedle, Bool.or_eq_true, Bool.or_eq_true, contains_iff, contains_iff,
    List.isEmpty_iff, or_assoc]
  constructor
  · rintro (rfl | h)
    · exact .inl (List.nil_infix)
    · exact h
  · exact .inr

theorem search_eq (s : Store) (query : String) : s.search query =
    s.page.records.filter (matchesNeedle (Text.lowercaseChars (Text.trim query).toList)) := by
  rw [search, Text.trim, String.toList_ofList]

theorem mem_search_iff : r ∈ s.search query ↔ r ∈ s.page.records ∧
    matchesNeedle (Text.lowercaseChars (Text.trim query).toList) r = true := by
  rw [search_eq, List.mem_filter]

theorem search_sublist (s : Store) (query : String) : (s.search query).Sublist s.page.records :=
  List.filter_sublist

theorem search_of_blank (h : Text.allBlank query = true) (s : Store) :
    s.search query = s.page.records := by
  rw [search_eq, Text.allBlank_iff.1 h]
  exact List.filter_eq_self.2 fun _ _ => rfl

theorem matchesNeedle_of_showsAlike (h : r.ShowsAlike part) :
    matchesNeedle (Text.lowercaseChars part) r = true := by
  obtain ⟨before, after, htext, hkept⟩ := h
  rw [matchesNeedle_iff]
  rcases htext with htext | htext <;> rw [htext]
  · exact .inl hkept.infix
  · exact .inr hkept.infix

def bare (id : List Char) : Record := ⟨String.ofList id, [], none, none, none, .null⟩

theorem exists_missed (h : ¬ Text.Steady part) :
    ∃ r : Record, r.Shows part ∧ matchesNeedle (Text.lowercaseChars part) r = false := by
  obtain ⟨text, x, hinfix, hsigma, hfewer⟩ := Text.exists_misread h
  have hid : (bare text).id.toList = text := String.toList_ofList
  have hbraces : (Text.lowercaseChars ['{', '}']).count x = 0 := by
    rcases hsigma with rfl | rfl <;> decide +kernel
  refine ⟨bare text, .inl (by rw [hid]; exact hinfix), Bool.eq_false_iff.2 fun hmatch => ?_⟩
  rcases matchesNeedle_iff.1 hmatch with hfound | hfound
  · rw [hid] at hfound
    exact Nat.not_lt.2 (hfound.sublist.count_le x) hfewer
  · have hnone : (Text.lowercaseChars part).count x ≤ (Text.lowercaseChars ['{', '}']).count x :=
      hfound.sublist.count_le x
    omega

def fetched (records : List Record) : List Operation := [.begin, .replace ⟨1⟩ records]

theorem records_run_fetched (size : UInt64) (records : List Record) :
    (run (new size) (fetched records)).page.records = records := rfl

/-- A search gives records of the page in their order, and all of them if the query is blank. It
gives each record that has the trimmed query in its id or its properties with the forms of the
capital sigmas that they have in the query. It gives each record that has the query there at all,
whatever was fetched, if and only if the query itself settles these forms; one without a capital
sigma does. -/
theorem written_query_found_iff (query : String) :
    let part := (Text.trim query).toList
    (∀ s : Store, (s.search query).Sublist s.page.records ∧
      (Text.allBlank query = true → s.search query = s.page.records) ∧
      ∀ r ∈ s.page.records, r.ShowsAlike part → r ∈ s.search query) ∧
    ((∀ size operations, let s := run (new size) operations
      ∀ r ∈ s.page.records, r.Shows part → r ∈ s.search query) ↔ Text.Steady part) ∧
    (Text.capitalSigma ∉ part → Text.Steady part) := by
  intro part
  have hfound : ∀ s : Store, ∀ r ∈ s.page.records, r.ShowsAlike part → r ∈ s.search query :=
    fun s r hr halike => mem_search_iff.2 ⟨hr, matchesNeedle_of_showsAlike halike⟩
  refine ⟨fun s => ⟨search_sublist s query, fun h => search_of_blank h s, hfound s⟩, ⟨?_, ?_⟩,
    Text.steady_of_no_sigma⟩
  · intro hall
    by_contra hunsteady
    obtain ⟨r, hshows, hmissed⟩ := exists_missed hunsteady
    have hr : r ∈ (run (new 1) (fetched [r])).page.records := by
      rw [records_run_fetched]
      exact List.mem_singleton_self r
    obtain ⟨-, hmatch⟩ := mem_search_iff.1 (hall 1 (fetched [r]) r hr hshows)
    rw [hmissed] at hmatch
    cases hmatch
  · intro hsteady size operations s r hr hshows
    exact hfound s r hr (hshows.alike hsteady)

/-- The sigma of the query has a letter behind it, so it is an inner one in the query and wherever
the query stands. -/
theorem inner_sigma_found :
    let r := bare ['Τ', 'Α', 'Σ', 'Α', 'Σ']
    let s := run (new 10) (fetched [bare ['-'], r])
    Text.Steady (Text.trim " ΑΣΑ").toList ∧ r.Shows (Text.trim " ΑΣΑ").toList ∧
    r ∈ s.search " ΑΣΑ" := by
  intro r s
  have hquery : (Text.trim " ΑΣΑ").toList = ['Α', 'Σ', 'Α'] := by decide
  have hsteady : Text.Steady (Text.trim " ΑΣΑ").toList := by
    rw [hquery]
    intro before after hsplit
    have hone : ['Α'] ++ 'Σ' :: ['Α'] = before ++ Text.capitalSigma :: after := hsplit
    obtain ⟨rfl, -, rfl⟩ := (List.append_cons_inj_of_notMem (by decide) (by decide)).1 hone
    exact .beforeCased (by decide +kernel)
  have hshows : r.Shows (Text.trim " ΑΣΑ").toList := .inl ⟨['Τ'], ['Σ'], by decide⟩
  have hr : r ∈ s.page.records := List.mem_cons_of_mem _ (List.mem_singleton_self r)
  exact ⟨hsteady, hshows, (written_query_found_iff " ΑΣΑ").2.1.2 hsteady 10 _ r hr hshows⟩

/-- The id ends in the query, but the sigma that stands alone in the query is a final one there. -/
theorem final_sigma_missed :
    let r := bare ['Ο', 'Δ', 'Ο', 'Σ']
    let s := run (new 10) (fetched [r])
    r ∈ s.page.records ∧ r.Shows (Text.trim "Σ").toList ∧ r ∉ s.search "Σ" := by
  refine ⟨List.mem_singleton_self _, .inl ⟨['Ο', 'Δ', 'Ο'], [], by decide⟩, fun hfound => ?_⟩
  have hmatch := (mem_search_iff.1 hfound).2
  revert hmatch
  decide +kernel

end Store

end ClusterConsole
