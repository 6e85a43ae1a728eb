import ClusterConsole.Proofs.Catalog.Failures

/-!
# The names a filter can choose from

The list begins with `id`, and every other name that the schema declares follows once, in the order
in which the names are first declared. An entry that declares nothing new changes nothing.
-/

namespace ClusterConsole.Catalog

open Backend (Endpoints Successful)
open Http (Response)
open Json (Value)

variable {entry : Value} {entries seen : List Value} {names : List String} {name other : String}

def Declares (entry : Value) (name : String) : Prop :=
  ∃ fields, entry = .object fields ∧ Json.Fields.get? "name" fields = some (.string name) ∧
    name ≠ ""

theorem declares_iff :
    Declares entry name ↔ (textAt? entry "name").filter (· ≠ "") = some name := by
  constructor
  · rintro ⟨fields, rfl, hname, hne⟩
    simp [textAt?, Value.field?, hname, Value.string?, Option.filter, hne]
  · intro h
    obtain ⟨htext, hne⟩ := Option.filter_eq_some_iff.1 h
    obtain ⟨v, hfield, hv⟩ := Option.bind_eq_some_iff.1 htext
    cases entry with
    | object fields =>
      cases v with
      | string s =>
        cases hv
        exact ⟨fields, rfl, hfield, of_decide_eq_true hne⟩
      | _ => cases hv
    | _ => cases hfield

theorem Declares.unique (h : Declares entry name) (hother : Declares entry other) :
    name = other := by
  rw [declares_iff] at h hother
  exact Option.some.inj (h.symm.trans hother)

/-- Some entry declares the first name, and the second is declared by none up to that entry. -/
def DeclaredBefore (entries : List Value) (name other : String) : Prop :=
  ∃ before entry after, entries = before ++ entry :: after ∧ Declares entry name ∧
    ∀ e ∈ before ++ [entry], ¬Declares e other

theorem DeclaredBefore.append (h : DeclaredBefore entries name other) (more : List Value) :
    DeclaredBefore (entries ++ more) name other := by
  obtain ⟨before, entry, after, rfl, hname, hother⟩ := h
  exact ⟨before, entry, after ++ more, by simp, hname, hother⟩

theorem declaredBefore_of_new (hname : ∃ e ∈ entries, Declares e name)
    (hother : ∀ e ∈ entries, ¬Declares e other) : DeclaredBefore entries name other := by
  obtain ⟨e, he, hdeclares⟩ := hname
  obtain ⟨before, after, rfl⟩ := List.append_of_mem he
  refine ⟨before, e, after, rfl, hdeclares, ?_⟩
  intro d hd
  apply hother
  simp only [List.mem_append, List.mem_cons, List.not_mem_nil, or_false] at hd ⊢
  exact hd.imp_right .inl

/-- What a filter can choose from when the schema has these entries. -/
structure Selectable (entries : List Value) (names : List String) : Prop where
  starts : names.head? = some "id"
  nodup : names.Nodup
  mem_iff : ∀ name, name ∈ names ↔ name = "id" ∨ ∃ e ∈ entries, Declares e name
  ordered : names.tail.Pairwise (DeclaredBefore entries)

theorem selectable_nil : Selectable [] ["id"] := by
  constructor <;> simp

theorem addName_of_mem (h : name ∈ names) : addName names name = names := if_pos h

theorem addName_of_not_mem (h : name ∉ names) : addName names name = names ++ [name] := if_neg h

theorem exists_declares_concat (seen : List Value) (entry : Value) (a : String) :
    (∃ e ∈ seen ++ [entry], Declares e a) ↔ (∃ e ∈ seen, Declares e a) ∨ Declares entry a := by
  simp [or_and_right, exists_or]

theorem Selectable.ordered_concat (h : Selectable seen names) (entry : Value) :
    names.tail.Pairwise (DeclaredBefore (seen ++ [entry])) :=
  h.ordered.imp fun hbefore => hbefore.append [entry]

theorem Selectable.keep (h : Selectable seen names)
    (hentry : ∀ name, Declares entry name → name ∈ names) :
    Selectable (seen ++ [entry]) names where
  starts := h.starts
  nodup := h.nodup
  mem_iff := by
    intro a
    have hold : Declares entry a → a = "id" ∨ ∃ e ∈ seen, Declares e a :=
      fun ha => (h.mem_iff a).1 (hentry a ha)
    rw [exists_declares_concat, ← or_assoc, or_iff_left_of_imp hold, h.mem_iff]
  ordered := h.ordered_concat entry

theorem Selectable.new (h : Selectable seen names) (hentry : Declares entry name)
    (hnew : name ∉ names) : Selectable (seen ++ [entry]) (names ++ [name]) := by
  obtain ⟨rest, rfl⟩ := List.head?_eq_some_iff.1 h.starts
  have hid : "id" ∉ rest := (List.nodup_cons.1 h.nodup).1
  have hunseen : ∀ e ∈ seen, ¬Declares e name := by
    intro e he hname
    exact hnew ((h.mem_iff name).2 (.inr ⟨e, he, hname⟩))
  -- Only `id` itself can be there without an entry, and behind the first place it is not.
  have hseen : ∀ a ∈ rest, ∃ e ∈ seen, Declares e a := by
    intro a ha
    rcases (h.mem_iff a).1 (List.mem_cons_of_mem _ ha) with rfl | hseen
    · exact absurd ha hid
    · exact hseen
  refine ⟨rfl, ?_, ?_, ?_⟩
  · rw [List.nodup_append]
    refine ⟨h.nodup, List.pairwise_singleton _ _, ?_⟩
    rintro a ha b hb rfl
    exact hnew (List.mem_singleton.1 hb ▸ ha)
  · intro a
    have hdeclares : Declares entry a ↔ a = name :=
      ⟨fun ha => ha.unique hentry, fun ha => ha ▸ hentry⟩
    rw [exists_declares_concat, hdeclares, List.mem_append, List.mem_singleton, h.mem_iff, or_assoc]
  · rw [List.cons_append, List.tail_cons, List.pairwise_append]
    refine ⟨h.ordered_concat entry, List.pairwise_singleton _ _, ?_⟩
    intro a ha b hb
    rw [List.mem_singleton.1 hb]
    exact (declaredBefore_of_new (hseen a ha) hunseen).append [entry]

theorem Selectable.declared (h : Selectable seen names) (hentry : Declares entry name) :
    Selectable (seen ++ [entry]) (addName names name) := by
  by_cases hmem : name ∈ names
  · rw [addName_of_mem hmem]
    exact h.keep fun a ha => ha.unique hentry ▸ hmem
  · rw [addName_of_not_mem hmem]
    exact h.new hentry hmem

theorem declaredNames_cons_of_nameless (h : ∀ name, ¬Declares entry name) (entries : List Value) :
    declaredNames (entry :: entries) = declaredNames entries := by
  apply List.filterMap_cons_none
  rw [Option.eq_none_iff_forall_ne_some]
  exact fun name hname => h name (declares_iff.2 hname)

theorem declaredNames_cons_of_declares (h : Declares entry name) (entries : List Value) :
    declaredNames (entry :: entries) = name :: declaredNames entries :=
  List.filterMap_cons_some (declares_iff.1 h)

theorem declaredNames_append (entries more : List Value) :
    declaredNames (entries ++ more) = declaredNames entries ++ declaredNames more :=
  List.filterMap_append

theorem nameless_or_declares (entry : Value) :
    (∀ name, ¬Declares entry name) ∨ ∃ name, Declares entry name := by
  by_cases h : ∃ name, Declares entry name
  · exact .inr h
  · exact .inl (not_exists.1 h)

def namesOf (entries : List Value) : List String := (declaredNames entries).foldl addName ["id"]

theorem Selectable.run (h : Selectable seen names) (entries : List Value) :
    Selectable (seen ++ entries) ((declaredNames entries).foldl addName names) := by
  induction entries generalizing seen names with
  | nil => simpa [declaredNames] using h
  | cons entry entries ih =>
    rw [List.append_cons]
    rcases nameless_or_declares entry with hnone | ⟨name, hname⟩
    · rw [declaredNames_cons_of_nameless hnone]
      exact ih (h.keep fun name hname => absurd hname (hnone name))
    · rw [declaredNames_cons_of_declares hname, List.foldl_cons]
      exact ih (h.declared hname)

theorem namesOf_selectable (entries : List Value) : Selectable entries (namesOf entries) :=
  selectable_nil.run entries

/-- Behind these entries this one declares nothing new. -/
inductive Idle (before : List Value) (entry : Value) : Prop where
  | nameless (h : ∀ name, ¬Declares entry name)
  | id (h : Declares entry "id")
  | repeated {e : Value} {name : String} (h : Declares entry name) (he : e ∈ before)
    (hname : Declares e name)

theorem Idle.addName_eq {before : List Value} (h : Idle before entry)
    (hname : Declares entry name) : addName (namesOf before) name = namesOf before := by
  apply addName_of_mem
  rw [(namesOf_selectable before).mem_iff]
  cases h with
  | nameless hnone => exact absurd hname (hnone name)
  | id hid => exact .inl (hname.unique hid)
  | repeated hentry he hseen =>
    rw [hname.unique hentry]
    exact .inr ⟨_, he, hseen⟩

theorem namesOf_of_idle {before : List Value} (h : Idle before entry) (after : List Value) :
    namesOf (before ++ entry :: after) = namesOf (before ++ after) := by
  have hfold : ∀ more, namesOf (before ++ more) =
      (declaredNames more).foldl addName (namesOf before) := by
    intro more
    rw [namesOf, namesOf, declaredNames_append, List.foldl_append]
  rw [hfold, hfold]
  rcases nameless_or_declares entry with hnone | ⟨name, hname⟩
  · rw [declaredNames_cons_of_nameless hnone]
  · rw [declaredNames_cons_of_declares hname, List.foldl_cons, h.addName_eq hname]

def schemaEntries (body : Value) : List Value := itemsAt body ["data", "schema", "properties"]

theorem classProperties_finish (e : Endpoints) (c : Connection) (className : String)
    {r : Response} {body : Value} (h : Successful r body) :
    (classProperties e c className).finish (.response r) = .ok (namesOf (schemaEntries body)) :=
  enveloped_finish_of_successful h _ _

/-- Any successful answer gives the names that its entries declare, and an answer with one more
entry that declares nothing new gives the same. -/
theorem property_names_selectable (e : Endpoints) (c : Connection) (className : String)
    {r : Response} {body : Value} (h : Successful r body) :
    ∃ names, (classProperties e c className).finish (.response r) = .ok names ∧
      Selectable (schemaEntries body) names ∧
      ∀ r' body' before entry after, Successful r' body' →
        schemaEntries body = before ++ after → schemaEntries body' = before ++ entry :: after →
        Idle before entry → (classProperties e c className).finish (.response r') = .ok names := by
  refine ⟨_, classProperties_finish e c className h, namesOf_selectable _, ?_⟩
  intro r' body' before entry after h' hentries hmore hidle
  rw [classProperties_finish e c className h', hmore, namesOf_of_idle hidle, hentries]

def Sample.named (name : String) : Value := .object [("name", .string name)]

def Sample.schemaData (entries : List Value) : Value :=
  .object [("schema", .object [("properties", .array entries)])]

def Sample.fewer : List Value :=
  [Sample.named "color", .string "size", Sample.named "id", Sample.named "name", Sample.named ""]

def Sample.more : List Value :=
  [Sample.named "color", .string "size", Sample.named "id", Sample.named "name",
    Sample.named "color", Sample.named ""]

theorem repeated_color_shown_once :
    Successful (Sample.answer (Sample.schemaData Sample.fewer))
      (Sample.envelope (Sample.schemaData Sample.fewer)) ∧
    Successful (Sample.answer (Sample.schemaData Sample.more))
      (Sample.envelope (Sample.schemaData Sample.more)) ∧
    Idle (Sample.more.take 4) (Sample.named "color") ∧
    (classProperties ClusterConsole.Sample.config.endpoints
      ClusterConsole.Sample.target.connection "Widget").finish
        (.response (Sample.answer (Sample.schemaData Sample.more))) =
      .ok ["id", "color", "name"] := by
  have hfewer := Sample.answer_successful (Sample.schemaData Sample.fewer)
    (by simp [Sample.schemaData, Sample.fewer, Sample.named, Value.Readable, Json.Fields.names])
  have hmore := Sample.answer_successful (Sample.schemaData Sample.more)
    (by simp [Sample.schemaData, Sample.more, Sample.named, Value.Readable, Json.Fields.names])
  have hcolor : Declares (Sample.named "color") "color" := ⟨_, rfl, rfl, by decide⟩
  have hidle : Idle (Sample.more.take 4) (Sample.named "color") :=
    .repeated hcolor (.head _) hcolor
  refine ⟨hfewer, hmore, hidle, ?_⟩
  obtain ⟨names, hfinish, -, hsame⟩ := property_names_selectable
    ClusterConsole.Sample.config.endpoints ClusterConsole.Sample.target.connection "Widget" hfewer
  have hnames : names = ["id", "color", "name"] := by
    rw [classProperties_finish _ _ _ hfewer] at hfinish
    exact (Except.ok.inj hfinish).symm
  rw [← hnames]
  exact hsame _ _ (Sample.more.take 4) (Sample.named "color") [Sample.named ""] hmore rfl rfl hidle

end ClusterConsole.Catalog
