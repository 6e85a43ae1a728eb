import ClusterConsole.Objects.Payload

/-!
# The list that a payload is made of

A body can hold lists of several shapes at once, with items or without. The list of the first shape
that has items makes the payload, and nothing else in the body is of any account.
-/

namespace ClusterConsole

namespace Shape

def rank : Shape → Nat
  | .formatted => 0
  | .rest => 1
  | .graph => 2

theorem mem_order (shape : Shape) : shape ∈ order := by
  cases shape <;> decide

theorem order_ascends : order.Pairwise fun earlier later => earlier.rank < later.rank := by
  decide

theorem mem_before_iff {before behind : List Shape} {shape other : Shape}
    (h : order = before ++ shape :: behind) : other ∈ before ↔ other.rank < shape.rank := by
  have hascends := order_ascends
  rw [h, List.pairwise_append, List.pairwise_cons] at hascends
  obtain ⟨-, ⟨hbehind, -⟩, hbefore⟩ := hascends
  refine ⟨fun hother => hbefore other hother shape (.head _), ?_⟩
  intro hrank
  have hmem := mem_order other
  rw [h, List.mem_append, List.mem_cons] at hmem
  rcases hmem with hmem | rfl | hmem
  · exact hmem
  · exact absurd hrank (Nat.lt_irrefl _)
  · exact absurd hrank (Nat.lt_asymm (hbehind other hmem))

end Shape

namespace Json.Value

def isObject : Value → Bool
  | .object _ => true
  | _ => false

theorem at?_concat (v : Value) (path : List String) (name : String) :
    v.at? (path ++ [name]) = (v.at? path).bind (·.field? name) := by
  induction path generalizing v with
  | nil =>
    rw [List.nil_append, at?, at?, Option.bind_some]
    exact Option.bind_fun_some _
  | cons step path ih =>
    rw [List.cons_append, at?, at?, Option.bind_assoc]
    exact congrArg (v.field? step).bind (funext ih)

end Json.Value

namespace Payload

open Json (Value)

variable {body body' : Value} {className className' : String} {shape : Shape} {items : List Value}

/-- The items are those of the list that the body has at the place of a shape. The answer to a graph
query has two places, and the second counts only when nothing is known of the first. -/
inductive Listed (body : Value) (className : String) : Shape → List Value → Prop where
  | formatted {items : List Value} (h : body.at? ["data", "objects"] = some (.array items)) :
    Listed body className .formatted items
  | rest {items : List Value} (h : body.at? ["data", "result", "objects"] = some (.array items)) :
    Listed body className .rest items
  | wrapped {items : List Value}
    (h : body.at? ["data", "data", "Get", className] = some (.array items)) :
    Listed body className .graph items
  | bare {items : List Value} (hwrapped : body.at? ["data", "data", "Get"] = none)
    (h : body.at? ["data", "Get", className] = some (.array items)) :
    Listed body className .graph items

/-- The list has items, and no list of an earlier shape has any. -/
structure First (body : Value) (className : String) (shape : Shape) (items : List Value) :
    Prop where
  listed : Listed body className shape items
  nonempty : items ≠ []
  earlier : ∀ other list, other.rank < shape.rank → Listed body className other list → list = []

theorem located_graph (body : Value) (className : String) :
    located body className .graph =
      if body.at? ["data", "data", "Get"] = none then body.at? ["data", "Get", className]
      else body.at? ["data", "data", "Get", className] := by
  have hbare := Value.at?_concat body ["data", "Get"] className
  have hwrapped := Value.at?_concat body ["data", "data", "Get"] className
  rw [located]
  cases h : body.at? ["data", "data", "Get"] with
  | none => rw [if_pos rfl, Option.none_or, ← hbare]; rfl
  | some get => rw [if_neg (by simp), Option.some_or, ← h, ← hwrapped]; rfl

theorem listed_iff :
    Listed body className shape items ↔ located body className shape = some (.array items) := by
  refine ⟨?_, ?_⟩
  · intro h
    cases h with
    | formatted h => exact h
    | rest h => exact h
    | wrapped h =>
      have hget : body.at? ["data", "data", "Get"] ≠ none := by
        intro hnone
        have hlist := Value.at?_concat body ["data", "data", "Get"] className
        rw [hnone] at hlist
        cases h.symm.trans hlist
      rw [located_graph, if_neg hget, h]
    | bare hwrapped h => rw [located_graph, if_pos hwrapped, h]
  · intro h
    cases shape with
    | formatted => exact .formatted h
    | rest => exact .rest h
    | graph =>
      rw [located_graph] at h
      split at h
      · next hwrapped => exact .bare hwrapped h
      · exact .wrapped h

theorem itemsOf_eq_some {v : Option Value} :
    itemsOf v = some items ↔ v = some (.array items) ∧ items ≠ [] := by
  unfold itemsOf
  split
  · simp only [Option.some.injEq, Value.array.injEq]
    refine ⟨?_, And.left⟩
    rintro rfl
    exact ⟨rfl, List.cons_ne_nil _ _⟩
  · next hnone =>
    refine iff_of_false (by simp) ?_
    rintro ⟨rfl, hitems⟩
    obtain ⟨i, is, rfl⟩ := List.exists_cons_of_ne_nil hitems
    exact hnone i is rfl

theorem itemsOf_located_eq_some :
    itemsOf (located body className shape) = some items ↔
      Listed body className shape items ∧ items ≠ [] := by
  rw [itemsOf_eq_some, listed_iff]

theorem itemsOf_located_eq_none :
    itemsOf (located body className shape) = none ↔
      ∀ list, Listed body className shape list → list = [] := by
  rw [Option.eq_none_iff_forall_ne_some]
  simp only [ne_eq, itemsOf_located_eq_some, not_and, Decidable.not_not]

theorem find?_eq_some_iff :
    find? body className = some (shape, items) ↔ First body className shape items := by
  rw [find?, List.findSome?_eq_some_iff]
  refine ⟨?_, ?_⟩
  · rintro ⟨before, other, behind, horder, hfound, hbefore⟩
    obtain ⟨list, hlist, heq⟩ := Option.map_eq_some_iff.1 hfound
    cases heq
    obtain ⟨hlisted, hitems⟩ := itemsOf_located_eq_some.1 hlist
    refine ⟨hlisted, hitems, ?_⟩
    intro earlier list hrank
    have hnone := hbefore earlier ((Shape.mem_before_iff horder).2 hrank)
    exact itemsOf_located_eq_none.1 (Option.map_eq_none_iff.1 hnone) list
  · intro h
    obtain ⟨before, behind, horder⟩ := List.append_of_mem shape.mem_order
    refine ⟨before, shape, behind, horder, ?_, ?_⟩
    · rw [itemsOf_located_eq_some.2 ⟨h.listed, h.nonempty⟩]
      rfl
    · intro earlier hmem
      have hrank := (Shape.mem_before_iff horder).1 hmem
      rw [itemsOf_located_eq_none.2 fun list => h.earlier earlier list hrank]
      rfl

theorem find?_eq_none_iff :
    find? body className = none ↔ ∀ shape list, Listed body className shape list → list = [] := by
  rw [find?, List.findSome?_eq_none_iff]
  simp only [Option.map_eq_none_iff, itemsOf_located_eq_none]
  exact ⟨fun h shape => h shape shape.mem_order, fun h shape _ => h shape⟩

theorem Listed.of_not_graph (h : Listed body className shape items) (hshape : shape ≠ .graph) :
    Listed body className' shape items := by
  cases h with
  | formatted h => exact .formatted h
  | rest h => exact .rest h
  | wrapped h => exact absurd rfl hshape
  | bare hwrapped h => exact absurd rfl hshape

theorem First.of_not_graph (h : First body className shape items) (hshape : shape ≠ .graph) :
    First body className' shape items := by
  refine ⟨h.listed.of_not_graph hshape, h.nonempty, ?_⟩
  intro other list hrank hlisted
  have hother : other ≠ .graph := by
    rintro rfl
    cases shape with
    | formatted => exact absurd hrank (by decide)
    | rest => exact absurd hrank (by decide)
    | graph => exact hshape rfl
  exact h.earlier other list hrank (hlisted.of_not_graph hother)

/-- The payload is that of a list: every object among the items has its record, in order, and each
record keeps its object as it came. -/
structure OfList (p : Payload) (shape : Shape) (items : List Value) : Prop where
  shape : p.shape = some shape
  itemCount : p.itemCount = items.length
  raws : p.records.map Record.raw = items.filter Value.isObject

theorem raws_records (shape : Shape) (items : List Value) :
    (items.filterMap (Record.ofItem? shape)).map Record.raw = items.filter Value.isObject := by
  induction items with
  | nil => rfl
  | cons item items ih =>
    cases item with
    | object fields =>
      rw [List.filter_cons_of_pos rfl, ← ih]
      rfl
    | _ => exact ih

theorem ofBody_of_first (h : First body className shape items) :
    ofBody body className =
      ⟨some shape, items.filterMap (Record.ofItem? shape), items.length⟩ := by
  rw [ofBody, find?_eq_some_iff.2 h]

theorem ofBody_of_no_items (h : ∀ shape list, Listed body className shape list → list = []) :
    ofBody body className = ⟨none, [], 0⟩ := by
  rw [ofBody, find?_eq_none_iff.2 h]

theorem ofBody_shape_iff :
    (ofBody body className).shape = some shape ↔ ∃ items, First body className shape items := by
  simp only [← find?_eq_some_iff]
  unfold ofBody
  cases find? body className with
  | none => simp
  | some found => simp [Prod.ext_iff]

/-- A payload is that of the first list with items, and it depends on nothing else: any body with
this list in the place of its shape has the same payload under any class name, as long as no list of
an earlier shape has items. For the first two shapes the class name does not matter at all. Without
a list with items the payload is empty. -/
theorem first_list_decides (body : Value) (className : String) :
    (∀ shape, (ofBody body className).shape = some shape ↔
      ∃ items, First body className shape items) ∧
    (∀ shape items, First body className shape items →
      (ofBody body className).OfList shape items ∧
      (∀ body' className', First body' className' shape items →
        ofBody body' className' = ofBody body className) ∧
      (shape ≠ .graph → ∀ className', ofBody body className' = ofBody body className)) ∧
    ((∀ shape list, Listed body className shape list → list = []) →
      ofBody body className = ⟨none, [], 0⟩) := by
  refine ⟨fun shape => ofBody_shape_iff, ?_, ofBody_of_no_items⟩
  intro shape items h
  have hsame : ∀ body' className', First body' className' shape items →
      ofBody body' className' = ofBody body className := by
    intro body' className' h'
    rw [ofBody_of_first h, ofBody_of_first h']
  refine ⟨?_, hsame, ?_⟩
  · rw [ofBody_of_first h]
    exact ⟨rfl, rfl, raws_records shape items⟩
  · intro hshape className'
    exact hsame body className' (h.of_not_graph hshape)

def Sample.mixedItems : List Value :=
  [.object [("id", .string "r1")], .null, .object [("id", .string "r2")], .string "r3"]

def Sample.mixedBody : Value :=
  .object [("data", .object [("Get", .object [("Widget", .array [.object []])]),
    ("result", .object [("objects", .array mixedItems)]), ("objects", .array [])])]

theorem listing_before_graph_answer :
    First Sample.mixedBody "Widget" .rest Sample.mixedItems ∧
    (ofBody Sample.mixedBody "Widget").itemCount = 4 ∧
    (ofBody Sample.mixedBody "Widget").records.map Record.raw =
      [.object [("id", .string "r1")], .object [("id", .string "r2")]] ∧
    ofBody Sample.mixedBody "Gadget" = ofBody Sample.mixedBody "Widget" := by
  have hfirst : First Sample.mixedBody "Widget" .rest Sample.mixedItems := by
    refine ⟨.rest rfl, List.cons_ne_nil _ _, ?_⟩
    intro other list hrank hlisted
    cases hlisted with
    | formatted h => exact (Value.array.inj (Option.some.inj h)).symm
    | rest h => exact absurd hrank (Nat.lt_irrefl 1)
    | wrapped h => exact absurd hrank (by decide)
    | bare hwrapped h => exact absurd hrank (by decide)
  obtain ⟨-, hdecided, -⟩ := first_list_decides Sample.mixedBody "Widget"
  obtain ⟨hlist, -, hanyClass⟩ := hdecided .rest Sample.mixedItems hfirst
  exact ⟨hfirst, hlist.itemCount, hlist.raws, hanyClass (by decide) "Gadget"⟩

end Payload

end ClusterConsole
