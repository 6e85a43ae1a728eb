import ClusterConsole.Objects.Record
import Mathlib.Data.List.Nodup

/-!
# Keys in a list

A record with an id of its own goes by it, and one without by a name made of its position. Ids and
names share one space, so the keys of a list are distinct exactly as long as no record has for its
id the name of another one.
-/

namespace ClusterConsole.Record

variable {records : List Record} {r s : Record} {i j : Nat}

def listKeys (records : List Record) : List String := records.mapIdx fun i r => r.listKey i

def positionName (i : Nat) : String := "object-" ++ toString i

/-- No id but the sentinel belongs to two records. -/
def OwnIdsDistinct (records : List Record) : Prop :=
  records.Pairwise fun r s => r.id = s.id → r.id = sentinel

/-- The id of a record is the name that another one, which has no id, gets for its position. -/
def NameTaken (records : List Record) : Prop :=
  ∃ i r s, records[i]? = some r ∧ r.id = sentinel ∧ s ∈ records ∧ s.id = positionName i

instance : Decidable (OwnIdsDistinct records) :=
  inferInstanceAs (Decidable (records.Pairwise fun r s => r.id = s.id → r.id = sentinel))

theorem listKey_of_own (h : r.id ≠ sentinel) (i : Nat) : r.listKey i = r.id := by
  have hown : r.hasBackendId = true := bne_iff_ne.2 h
  rw [listKey, if_pos hown]

theorem listKey_of_sentinel (h : r.id = sentinel) (i : Nat) : r.listKey i = positionName i := by
  have hnone : ¬ r.hasBackendId = true := fun hown => bne_iff_ne.1 hown h
  rw [listKey, if_neg hnone]
  rfl

theorem positionName_ne_sentinel (i : Nat) : positionName i ≠ sentinel := by
  intro h
  have hfirst : (positionName i).toList.head? = sentinel.toList.head? := by rw [h]
  simp [positionName, sentinel] at hfirst

theorem positionName_injective (h : positionName i = positionName j) : i = j := by
  have hdigits : Nat.toDigits 10 i = Nat.toDigits 10 j := by
    rw [positionName, positionName, String.append_right_inj, Nat.toString_eq_ofList_toDigits,
      Nat.toString_eq_ofList_toDigits] at h
    exact String.ofList_injective h
  calc i = Nat.ofDigitChars 10 (Nat.toDigits 10 i) 0 := Nat.ofDigitChars_ten_toDigits.symm
    _ = Nat.ofDigitChars 10 (Nat.toDigits 10 j) 0 := by rw [hdigits]
    _ = j := Nat.ofDigitChars_ten_toDigits

theorem getElem?_listKeys (records : List Record) (i : Nat) :
    (listKeys records)[i]? = records[i]?.map fun r => r.listKey i :=
  List.getElem?_mapIdx

theorem listKeys_nodup_iff_lt :
    (listKeys records).Nodup ↔ ∀ (i j : Nat) (r s : Record), i < j → records[i]? = some r →
      records[j]? = some s → r.listKey i ≠ s.listKey j := by
  have hlength : (listKeys records).length = records.length := List.length_mapIdx
  rw [List.nodup_iff_getElem?_ne_getElem?, hlength]
  constructor
  · intro h i j r s hlt hr hs he
    obtain ⟨hj, -⟩ := List.getElem?_eq_some_iff.1 hs
    refine h i j hlt hj ?_
    rw [getElem?_listKeys, getElem?_listKeys, hr, hs, Option.map_some, Option.map_some, he]
  · intro h i j hlt hj he
    have hr : records[i]? = some records[i] := List.getElem?_eq_getElem (Nat.lt_trans hlt hj)
    have hs : records[j]? = some records[j] := List.getElem?_eq_getElem hj
    rw [getElem?_listKeys, getElem?_listKeys, hr, hs, Option.map_some, Option.map_some] at he
    exact h i j _ _ hlt hr hs (Option.some.inj he)

theorem OwnIdsDistinct.id_eq (h : OwnIdsDistinct records) (hlt : i < j)
    (hr : records[i]? = some r) (hs : records[j]? = some s) (he : r.id = s.id) :
    r.id = sentinel := by
  obtain ⟨hi, rfl⟩ := List.getElem?_eq_some_iff.1 hr
  obtain ⟨hj, rfl⟩ := List.getElem?_eq_some_iff.1 hs
  exact List.pairwise_iff_getElem.1 h i j hi hj hlt he

theorem nameTaken_of_key_eq (h : OwnIdsDistinct records) (hlt : i < j)
    (hr : records[i]? = some r) (hs : records[j]? = some s) (he : r.listKey i = s.listKey j) :
    NameTaken records := by
  by_cases hrid : r.id = sentinel <;> by_cases hsid : s.id = sentinel
  · rw [listKey_of_sentinel hrid, listKey_of_sentinel hsid] at he
    exact absurd (positionName_injective he) (Nat.ne_of_lt hlt)
  · rw [listKey_of_sentinel hrid, listKey_of_own hsid] at he
    exact ⟨i, r, s, hr, hrid, List.mem_of_getElem? hs, he.symm⟩
  · rw [listKey_of_own hrid, listKey_of_sentinel hsid] at he
    exact ⟨j, s, r, hs, hsid, List.mem_of_getElem? hr, he⟩
  · rw [listKey_of_own hrid, listKey_of_own hsid] at he
    exact absurd (h.id_eq hlt hr hs he) hrid

theorem NameTaken.key_eq (h : NameTaken records) : ∃ (i j : Nat) (r s : Record), i ≠ j ∧
    records[i]? = some r ∧ records[j]? = some s ∧ r.listKey i = s.listKey j := by
  obtain ⟨i, r, s, hr, hrid, hmem, hsid⟩ := h
  obtain ⟨j, hs⟩ := List.mem_iff_getElem?.1 hmem
  have hown : s.id ≠ sentinel := hsid ▸ positionName_ne_sentinel i
  refine ⟨i, j, r, s, ?_, hr, hs, ?_⟩
  · rintro rfl
    have he : r = s := Option.some.inj (hr.symm.trans hs)
    exact hown (he ▸ hrid)
  · rw [listKey_of_sentinel hrid, listKey_of_own hown, hsid]

/-- Where only the sentinel is the id of two records, two keys are the same only if a record has the
name of another one for its id. -/
theorem list_keys_distinct_iff (h : OwnIdsDistinct records) :
    (listKeys records).Nodup ↔ ¬ NameTaken records := by
  rw [listKeys_nodup_iff_lt]
  constructor
  · intro hdistinct htaken
    obtain ⟨i, j, r, s, hne, hr, hs, he⟩ := htaken.key_eq
    rcases Nat.lt_or_gt_of_ne hne with hlt | hlt
    · exact hdistinct i j r s hlt hr hs he
    · exact hdistinct j i s r hlt hs hr he.symm
  · intro hfree i j r s hlt hr hs he
    exact hfree (nameTaken_of_key_eq h hlt hr hs he)

def Sample.called (ids : List String) : List Record :=
  ids.map fun id => ⟨id, [], none, none, none, .null⟩

theorem lookalike_names_free :
    let records := Sample.called ["-", "object-2", "object-1", "-", "object-5"]
    OwnIdsDistinct records ∧ (listKeys records).Nodup ∧ ¬ NameTaken records := by
  intro records
  have hown : OwnIdsDistinct records := by decide
  have hkeys : (listKeys records).Nodup := by decide
  exact ⟨hown, hkeys, (list_keys_distinct_iff hown).1 hkeys⟩

/-- The first record has no id and gets the name that is the second one's id. -/
theorem namesake_shares_key :
    let records := Sample.called ["-", "object-0"]
    OwnIdsDistinct records ∧ ¬ (listKeys records).Nodup := by
  decide

end ClusterConsole.Record
