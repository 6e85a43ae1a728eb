import ClusterConsole.Proofs.Payload.Priority

/-!
# The two places of a graph answer

The answer to a graph query stands in the data, or wrapped once more under `data`. The first of the
two lists that has items is found, but for one case: a wrapped answer that is there at all, be it
null or about other classes, bars the way to the other one.
-/

namespace ClusterConsole.Payload

open Json (Value)

variable {body : Value} {className : String} {items : List Value}

/-- The list of a class in the first of the two places where it has items. -/
inductive Spelled (body : Value) (className : String) : List Value → Prop where
  | wrapped {items : List Value}
    (h : body.at? ["data", "data", "Get", className] = some (.array items)) (hitems : items ≠ []) :
    Spelled body className items
  | bare {items : List Value}
    (hwrapped : ∀ list,
      body.at? ["data", "data", "Get", className] = some (.array list) → list = [])
    (h : body.at? ["data", "Get", className] = some (.array items)) (hitems : items ≠ []) :
    Spelled body className items

/-- There is a wrapped answer, without items for the class. -/
structure Barred (body : Value) (className : String) : Prop where
  present : body.at? ["data", "data", "Get"] ≠ none
  empty : ∀ list, body.at? ["data", "data", "Get", className] = some (.array list) → list = []

structure NoListing (body : Value) : Prop where
  formatted : ∀ list, body.at? ["data", "objects"] = some (.array list) → list = []
  rest : ∀ list, body.at? ["data", "result", "objects"] = some (.array list) → list = []

theorem Spelled.ne_nil (h : Spelled body className items) : items ≠ [] := by
  cases h with
  | wrapped _ hitems => exact hitems
  | bare _ _ hitems => exact hitems

theorem Spelled.listed (h : Spelled body className items) (hfree : ¬Barred body className) :
    Listed body className .graph items := by
  cases h with
  | wrapped h _ => exact .wrapped h
  | bare hwrapped h _ =>
    have hnone : body.at? ["data", "data", "Get"] = none :=
      Decidable.not_not.1 fun hpresent => hfree ⟨hpresent, hwrapped⟩
    exact .bare hnone h

theorem NoListing.first (h : NoListing body) (hlisted : Listed body className .graph items)
    (hitems : items ≠ []) : First body className .graph items := by
  refine ⟨hlisted, hitems, ?_⟩
  intro other list hrank hother
  cases hother with
  | formatted hlist => exact h.formatted list hlist
  | rest hlist => exact h.rest list hlist
  | wrapped _ => exact absurd hrank (Nat.lt_irrefl _)
  | bare _ _ => exact absurd hrank (Nat.lt_irrefl _)

theorem NoListing.of_barred (h : NoListing body) (hbarred : Barred body className) :
    ofBody body className = ⟨none, [], 0⟩ := by
  apply ofBody_of_no_items
  intro shape list hlisted
  cases hlisted with
  | formatted hlist => exact h.formatted list hlist
  | rest hlist => exact h.rest list hlist
  | wrapped hlist => exact hbarred.empty list hlist
  | bare hnone _ => exact absurd hnone hbarred.present

/-- Without a listing that has items, the payload is that of the first of the two lists of a graph
answer that has some, if and only if no wrapped answer without items bars it. A barred list is not
found, and the payload is empty. -/
theorem graph_list_found_iff (hlisting : NoListing body) (h : Spelled body className items) :
    (ofBody body className =
        ⟨some .graph, items.filterMap (Record.ofItem? .graph), items.length⟩ ↔
      ¬Barred body className) ∧
    (Barred body className → ofBody body className = ⟨none, [], 0⟩) := by
  refine ⟨⟨?_, ?_⟩, hlisting.of_barred⟩
  · intro hfound hbarred
    rw [hlisting.of_barred hbarred] at hfound
    cases hfound
  · intro hfree
    exact ofBody_of_first (hlisting.first (h.listed hfree) h.ne_nil)

def Sample.graphItems : List Value :=
  [.object [("name", .string "acme"), ("_additional", .object [("id", .string "w1")])], .null]

def Sample.bareBody : Value :=
  .object [("data", .object [("data", .object [("errors", .null)]), ("objects", .array []),
    ("Get", .object [("Gadget", .array []), ("Widget", .array graphItems)])])]

theorem bare_list_found :
    NoListing Sample.bareBody ∧ Spelled Sample.bareBody "Widget" Sample.graphItems ∧
    ¬Barred Sample.bareBody "Widget" ∧
    (ofBody Sample.bareBody "Widget").shape = some .graph ∧
    (ofBody Sample.bareBody "Widget").records.map Record.id = ["w1"] ∧
    (ofBody Sample.bareBody "Widget").itemCount = 2 := by
  have hlisting : NoListing Sample.bareBody := by
    refine ⟨?_, ?_⟩
    · intro list hlist
      exact (Value.array.inj (Option.some.inj hlist)).symm
    · intro list hlist
      cases hlist
  have hspelled : Spelled Sample.bareBody "Widget" Sample.graphItems := by
    refine .bare ?_ rfl (List.cons_ne_nil _ _)
    intro list hlist
    cases hlist
  have hfree : ¬Barred Sample.bareBody "Widget" := fun hbarred => hbarred.present rfl
  have hfound := (graph_list_found_iff hlisting hspelled).1.2 hfree
  exact ⟨hlisting, hspelled, hfree, congrArg Payload.shape hfound,
    congrArg (fun p => p.records.map Record.id) hfound, congrArg Payload.itemCount hfound⟩

def Sample.barredBody : Value :=
  .object [("data", .object [("data", .object [("Get", .null)]),
    ("Get", .object [("Widget", .array graphItems)])])]

theorem list_lost_behind_null :
    NoListing Sample.barredBody ∧ Spelled Sample.barredBody "Widget" Sample.graphItems ∧
    (ofBody Sample.barredBody "Widget").shape = none ∧
    (ofBody Sample.barredBody "Widget").records = [] := by
  refine ⟨⟨?_, ?_⟩, .bare ?_ rfl (List.cons_ne_nil _ _), rfl, rfl⟩
  · intro list hlist
    cases hlist
  · intro list hlist
    cases hlist
  · intro list hlist
    cases hlist

end ClusterConsole.Payload
