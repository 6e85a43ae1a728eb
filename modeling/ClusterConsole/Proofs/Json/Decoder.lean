import ClusterConsole.Json.Decoder

/-!
# Decoders undo encoders

A structure is read from its fields once every one of its members is: its field is there and reads
as the member's value, or it is left out and the value is the member's default.
-/

namespace ClusterConsole.Json

variable {α β : Type}

namespace Fields

variable {name : String} {v : α} {fs gs : List (String × α)}

theorem get?_nil (name : String) : get? name ([] : List (String × α)) = none := rfl

theorem get?_cons (name : String) (f : String × α) (fs : List (String × α)) :
    get? name (f :: fs) = if f.1 = name then some f.2 else get? name fs := by
  by_cases h : f.1 = name <;> simp [get?, h]

theorem get?_append (name : String) (fs gs : List (String × α)) :
    get? name (fs ++ gs) = (get? name fs).or (get? name gs) := by
  rw [get?, get?, get?, List.find?_append, Option.map_or]

theorem get?_insert (name : String) (v : α) (fs : List (String × α)) :
    get? name (insert name v fs) = some v := by
  induction fs with
  | nil => simp [insert, get?_cons]
  | cons f fs ih =>
    by_cases h : f.1 = name <;> simp [insert, get?_cons, h, ih]

theorem get?_of_mem (h : (names fs).Nodup) (hmem : (name, v) ∈ fs) : get? name fs = some v := by
  induction fs with
  | nil => cases hmem
  | cons f fs ih =>
    obtain ⟨hnew, hrest⟩ := List.nodup_cons.1 h
    rcases List.mem_cons.1 hmem with rfl | hmem
    · simp [get?]
    · have hne : f.1 ≠ name := by
        intro he
        have hname : name ∈ names fs := List.mem_map_of_mem hmem
        refine hnew ?_
        change f.1 ∈ names fs
        rwa [he]
      rw [← ih hrest hmem, get?, get?, List.find?_cons_of_neg (by simpa using hne)]

theorem mem_of_get? (h : get? name fs = some v) : (name, v) ∈ fs := by
  obtain ⟨f, hf, rfl⟩ := Option.map_eq_some_iff.1 h
  have hname := List.find?_some hf
  simp only [decide_eq_true_eq] at hname
  subst hname
  exact List.mem_of_find?_eq_some hf

end Fields

namespace Decoder

theorem listOf_map {d : Decoder α} {encode : α → Value} {as : List α}
    (h : ∀ a ∈ as, d (encode a) = .ok a) : listOf d (.array (as.map encode)) = .ok as := by
  rw [listOf]
  induction as with
  | nil => rfl
  | cons a as ih =>
    rw [List.map_cons, List.mapM_cons, h a (.head _), ih fun b hb => h b (.tail _ hb)]
    rfl

theorem fieldsOf_map {d : Decoder α} {encode : α → Value} {fs : List (String × α)}
    (h : ∀ f ∈ fs, d (encode f.2) = .ok f.2) :
    fieldsOf d (.object (fs.map fun f => (f.1, encode f.2))) = .ok fs := by
  rw [fieldsOf]
  induction fs with
  | nil => rfl
  | cons f fs ih =>
    rw [List.map_cons, List.mapM_cons, h f (.head _), ih fun g hg => h g (.tail _ hg)]
    rfl

theorem fieldsOf_any (fs : Fields) : fieldsOf any (.object fs) = .ok fs := by
  have hread := @fieldsOf_map _ any id fs fun _ _ => rfl
  have hmap : fs.map (fun f => (f.1, id f.2)) = fs := List.map_id' fs
  rwa [hmap] at hread

theorem optional_of_ne_null {d : Decoder α} {v : Value} {a : α} (h : d v = .ok a)
    (hv : v.isNull = false) : optional d v = .ok (some a) := by
  unfold optional
  split
  · cases hv
  · rw [h]
    rfl

namespace Member

variable {m : Member α} {fs : Fields} {a : α} {v : Value}

def Holds (m : Member α) (fs : Fields) (a : α) : Prop :=
  match Fields.get? m.name fs with
  | some v => m.read v = .ok a
  | none => m.absent = some a

theorem holds_of_get? (h : Fields.get? m.name fs = some v) (hread : m.read v = .ok a) :
    m.Holds fs a := by
  rwa [Holds, h]

theorem holds_of_absent (h : Fields.get? m.name fs = none) (habsent : m.absent = some a) :
    m.Holds fs a := by
  rwa [Holds, h]

theorem take_of_holds (h : m.Holds fs a) (form : Form) : m.take form (.named fs) = .ok a := by
  unfold Holds at h
  rw [take]
  cases hget : Fields.get? m.name fs with
  | some v =>
    rw [hget] at h
    exact h
  | none =>
    rw [hget] at h
    simp only [h]

end Member

def Passes (check : Check) (fs : Fields) : Prop :=
  ∀ v, Fields.get? check.1 fs = some v → check.2 v = .ok ()

theorem Member.Holds.passes {m : Member α} {fs : Fields} {a : α} (h : m.Holds fs a) :
    Passes m.check fs := by
  intro v hv
  have hget : Fields.get? m.name fs = some v := hv
  unfold Holds at h
  rw [hget] at h
  have hread : m.read v = .ok a := h
  change (m.read v).map (fun _ => ()) = .ok ()
  rw [hread]
  rfl

theorem checkFields_of_passes {checks : List Check} {fs : Fields} (hnames : (Fields.names fs).Nodup)
    (h : ∀ check ∈ checks, Passes check fs) : checkFields checks fs = .ok () := by
  have hall : ∀ gs : Fields, gs ⊆ fs → checkFields checks gs = .ok () := by
    intro gs
    induction gs with
    | nil => intro _; rfl
    | cons g gs ih =>
      intro hsub
      obtain ⟨hg, hgs⟩ := List.cons_subset.1 hsub
      rw [checkFields, List.forM]
      cases hcheck : Fields.get? g.1 checks with
      | none => exact ih hgs
      | some check =>
        have hpasses : check g.2 = .ok () :=
          h _ (Fields.mem_of_get? hcheck) g.2 (Fields.get?_of_mem hnames hg)
        dsimp only
        rw [hpasses]
        exact ih hgs
  exact hall fs fun _ hf => hf

theorem build_object {form : Form} {checks : List Check} {make : Parts → Except Mismatch α}
    {fs : Fields} (hnames : (Fields.names fs).Nodup) (h : ∀ check ∈ checks, Passes check fs) :
    build form checks make (.object fs) = make (.named fs) := by
  rw [build, checkFields_of_passes hnames h]
  rfl

end Decoder

end ClusterConsole.Json
