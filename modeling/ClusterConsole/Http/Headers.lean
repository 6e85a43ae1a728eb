/-!
# Header maps

Headers by name in ascending order of code points, one value for each name.
-/

namespace ClusterConsole.Http

structure Headers where
  entries : List (String × String)
  sorted : entries.Pairwise fun a b => a.1 < b.1
  deriving DecidableEq, Repr

namespace Headers

def empty : Headers := ⟨[], .nil⟩

def insertEntry (name value : String) : List (String × String) → List (String × String)
  | [] => [(name, value)]
  | e :: es =>
    if name < e.1 then (name, value) :: e :: es
    else if name = e.1 then (name, value) :: es
    else e :: insertEntry name value es

theorem mem_insertEntry {name value : String} {e : String × String} :
    ∀ {es : List (String × String)}, e ∈ insertEntry name value es → e = (name, value) ∨ e ∈ es
  | [], h => by simpa [insertEntry] using h
  | d :: ds, h => by
    simp only [insertEntry] at h
    split at h
    · simpa using h
    · split at h
      · rcases List.mem_cons.1 h with h | h
        · exact .inl h
        · exact .inr (.tail _ h)
      · rcases List.mem_cons.1 h with h | h
        · exact .inr (h ▸ .head _)
        · exact (mem_insertEntry h).imp id (.tail _)

theorem insertEntry_sorted (name value : String) :
    ∀ {es : List (String × String)}, es.Pairwise (fun a b => a.1 < b.1) →
      (insertEntry name value es).Pairwise fun a b => a.1 < b.1
  | [], _ => by simp [insertEntry]
  | d :: ds, h => by
    rw [List.pairwise_cons] at h
    simp only [insertEntry]
    split
    · next hlt =>
      refine .cons (fun e he => ?_) (.cons h.1 h.2)
      rcases List.mem_cons.1 he with rfl | he
      · exact hlt
      · exact String.lt_trans hlt (h.1 e he)
    · next hnlt =>
      split
      · next heq => exact .cons (fun e he => heq ▸ h.1 e he) h.2
      · next hne =>
        refine .cons (fun e he => ?_) (insertEntry_sorted name value h.2)
        rcases mem_insertEntry he with rfl | he
        · exact String.not_le.1 fun hle => hne (String.le_antisymm hle (String.not_lt.1 hnlt))
        · exact h.1 e he

def insert (h : Headers) (name value : String) : Headers :=
  ⟨insertEntry name value h.entries, insertEntry_sorted name value h.sorted⟩

def ofList (pairs : List (String × String)) : Headers :=
  pairs.foldl (fun h p => h.insert p.1 p.2) empty

def get? (h : Headers) (name : String) : Option String :=
  (h.entries.find? fun e => e.1 = name).map (·.2)

def map (f : String → String) (h : Headers) : Headers :=
  ofList (h.entries.map fun e => (f e.1, e.2))

end Headers

end ClusterConsole.Http
