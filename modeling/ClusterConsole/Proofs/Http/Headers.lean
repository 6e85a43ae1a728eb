import Mathlib.Data.List.Induction
import ClusterConsole.Http.Message

/-!
# Header maps

A map made of a list of headers has the last value of each name. The entries of a map are such a
list for it, so a map that is taken apart and made again is the same.
-/

namespace ClusterConsole.Http

namespace Headers

variable {name value : String} {es pairs : List (String × String)}

theorem find?_insertEntry (name value other : String) (es : List (String × String)) :
    (insertEntry name value es).find? (fun e => e.1 = other) =
      if name = other then some (name, value) else es.find? fun e => e.1 = other := by
  induction es with
  | nil => by_cases h : name = other <;> simp [insertEntry, h]
  | cons e es ih =>
    simp only [insertEntry]
    split
    · by_cases h : name = other <;> simp [h]
    · split
      · next heq => by_cases h : name = other <;> simp [← heq, h]
      · next hne =>
        rw [List.find?_cons, List.find?_cons, ih]
        by_cases h : e.1 = other
        · have hother : name ≠ other := fun hname => hne (hname.trans h.symm)
          simp [h, hother]
        · simp [h]

theorem insert_entries (h : Headers) (name value : String) :
    (h.insert name value).entries = insertEntry name value h.entries := rfl

theorem get?_insert (h : Headers) (name value other : String) :
    (h.insert name value).get? other = if name = other then some value else h.get? other := by
  rw [get?, insert_entries, find?_insertEntry]
  split <;> rfl

theorem ofList_concat (pairs : List (String × String)) (p : String × String) :
    ofList (pairs ++ [p]) = (ofList pairs).insert p.1 p.2 := by
  simp [ofList, List.foldl_append]

theorem get?_ofList (pairs : List (String × String)) (name : String) :
    (ofList pairs).get? name = (pairs.reverse.find? fun p => p.1 = name).map (·.2) := by
  induction pairs using List.reverseRecOn with
  | nil => rfl
  | append_singleton pairs p ih =>
    rw [ofList_concat, get?_insert, ih, List.reverse_append, List.reverse_singleton,
      List.singleton_append, List.find?_cons]
    by_cases h : p.1 = name <;> simp [h]

theorem mem_of_mem_ofList {e : String × String} (h : e ∈ (ofList pairs).entries) : e ∈ pairs := by
  induction pairs using List.reverseRecOn with
  | nil => exact h
  | append_singleton pairs p ih =>
    rw [ofList_concat, insert_entries] at h
    rcases mem_insertEntry h with rfl | h
    · exact List.mem_append_right _ (.head _)
    · exact List.mem_append_left _ (ih h)

theorem insertEntry_of_lt (h : ∀ e ∈ es, e.1 < name) :
    insertEntry name value es = es ++ [(name, value)] := by
  induction es with
  | nil => rfl
  | cons e es ih =>
    have hlt : e.1 < name := h e (.head _)
    have hnot : ¬name < e.1 := fun hgt => String.lt_irrefl name (String.lt_trans hgt hlt)
    have hne : name ≠ e.1 := fun heq => String.lt_irrefl name (heq ▸ hlt)
    rw [insertEntry, if_neg hnot, if_neg hne, ih fun d hd => h d (.tail _ hd), List.cons_append]

theorem ofList_of_sorted (h : pairs.Pairwise fun a b => a.1 < b.1) :
    (ofList pairs).entries = pairs := by
  induction pairs using List.reverseRecOn with
  | nil => rfl
  | append_singleton pairs p ih =>
    obtain ⟨hpairs, -, hlt⟩ := List.pairwise_append.1 h
    have hentries : (ofList (pairs ++ [p])).entries = insertEntry p.1 p.2 pairs := by
      rw [ofList_concat, insert_entries, ih hpairs]
    rw [hentries]
    exact insertEntry_of_lt fun e he => hlt e he p (.head _)

theorem ofList_entries (h : Headers) : ofList h.entries = h := by
  obtain ⟨entries, sorted⟩ := h
  rw [Headers.mk.injEq]
  exact ofList_of_sorted sorted

end Headers

namespace Response

variable {headers : List (String × String)}

theorem lowered_of_lower (h : ∀ e ∈ headers, Text.lowerAscii e.1 = e.1) :
    headers.map (fun e => (Text.lowerAscii e.1, e.2)) = headers := by
  conv_rhs => rw [← List.map_id headers]
  exact List.map_congr_left fun e he => Prod.ext (h e he) rfl

theorem make_entries (h : ∀ e ∈ headers, Text.lowerAscii e.1 = e.1) (status : UInt16)
    (reason body : String) :
    make status reason (Headers.ofList headers).entries body = make status reason headers body := by
  have hentries : ∀ e ∈ (Headers.ofList headers).entries, Text.lowerAscii e.1 = e.1 :=
    fun e he => h e (Headers.mem_of_mem_ofList he)
  rw [make, make, lowered_of_lower hentries, lowered_of_lower h, Headers.ofList_entries]

end Response

end ClusterConsole.Http
