import ClusterConsole.Json.Parser
import ClusterConsole.Json.Printer

/-!
# The texts of a value

A text of a value has the value's parts in their order, between brackets and commas, with layout
wherever it may stand. Both printers write such a text: without any layout, and with a line for each
item and each field.
-/

namespace ClusterConsole.Json

/-- Blanks, tabs and line ends, or nothing. -/
def Layout (cs : List Char) : Prop := ∀ c ∈ cs, isLayout c = true

theorem layout_nil : Layout [] := fun _ hc => absurd hc List.not_mem_nil

theorem layout_newLine (level : Nat) : Layout (newLine level) := by
  refine List.forall_mem_cons.2 ⟨rfl, ?_⟩
  intro c hc
  rw [(List.mem_replicate.1 hc).2]
  rfl

theorem layout_blank : Layout [' '] := List.forall_mem_singleton.2 rfl

theorem layout_lineEnd : Layout ['\n'] := List.forall_mem_singleton.2 rfl

mutual

inductive Written : Value → List Char → Prop where
  | null : Written .null "null".toList
  | true : Written (.bool true) "true".toList
  | false : Written (.bool false) "false".toList
  | number (n : Number) : Written (.number n) n.chars
  | string (s : String) : Written (.string s) (quote s)
  | emptyArray {gap : List Char} (hgap : Layout gap) : Written (.array []) ('[' :: gap ++ [']'])
  | array {gap cs more : List Char} {v : Value} {vs : List Value} (hgap : Layout gap)
      (hv : Written v cs) (hvs : ItemsWritten vs more) :
      Written (.array (v :: vs)) ('[' :: gap ++ cs ++ more)
  | emptyObject {gap : List Char} (hgap : Layout gap) : Written (.object []) ('{' :: gap ++ ['}'])
  | object {gap cs more : List Char} {f : String × Value} {fs : Fields} (hgap : Layout gap)
      (hf : FieldWritten f cs) (hfs : FieldsWritten fs more) :
      Written (.object (f :: fs)) ('{' :: gap ++ cs ++ more)

/-- The items behind the first one, up to the closing bracket. -/
inductive ItemsWritten : List Value → List Char → Prop where
  | close {gap : List Char} (hgap : Layout gap) : ItemsWritten [] (gap ++ [']'])
  | comma {before after cs more : List Char} {v : Value} {vs : List Value}
      (hbefore : Layout before) (hafter : Layout after) (hv : Written v cs)
      (hvs : ItemsWritten vs more) : ItemsWritten (v :: vs) (before ++ ',' :: after ++ cs ++ more)

inductive FieldWritten : String × Value → List Char → Prop where
  | colon {before after cs : List Char} {name : String} {v : Value} (hbefore : Layout before)
      (hafter : Layout after) (hv : Written v cs) :
      FieldWritten (name, v) (quote name ++ before ++ ':' :: after ++ cs)

/-- The fields behind the first one, up to the closing brace. -/
inductive FieldsWritten : Fields → List Char → Prop where
  | close {gap : List Char} (hgap : Layout gap) : FieldsWritten [] (gap ++ ['}'])
  | comma {before after cs more : List Char} {f : String × Value} {fs : Fields}
      (hbefore : Layout before) (hafter : Layout after) (hf : FieldWritten f cs)
      (hfs : FieldsWritten fs more) : FieldsWritten (f :: fs) (before ++ ',' :: after ++ cs ++ more)

end

theorem FieldWritten.of_gap (name : String) {after cs : List Char} {v : Value}
    (hafter : Layout after) (hv : Written v cs) :
    FieldWritten (name, v) (quote name ++ ':' :: (after ++ cs)) := by
  have h : FieldWritten (name, v) (quote name ++ [] ++ ':' :: after ++ cs) :=
    .colon layout_nil hafter hv
  simpa using h

mutual

theorem written_chars : ∀ v : Value, Written v v.chars
  | .null => .null
  | .bool true => .true
  | .bool false => .false
  | .number n => .number n
  | .string s => .string s
  | .array [] => .emptyArray layout_nil
  | .array (v :: vs) => .array layout_nil (written_chars v) (written_itemChars vs)
  | .object [] => .emptyObject layout_nil
  | .object ((name, v) :: fs) => by
    have h := Written.object layout_nil (.of_gap name layout_nil (written_chars v))
      (written_fieldChars fs)
    simpa [Value.chars] using h

theorem written_itemChars : ∀ vs : List Value, ItemsWritten vs (itemChars vs)
  | [] => .close layout_nil
  | v :: vs => .comma layout_nil layout_nil (written_chars v) (written_itemChars vs)

theorem written_fieldChars : ∀ fs : Fields, FieldsWritten fs (fieldChars fs)
  | [] => .close layout_nil
  | (name, v) :: fs => by
    have h := FieldsWritten.comma layout_nil layout_nil
      (.of_gap name layout_nil (written_chars v)) (written_fieldChars fs)
    simpa [fieldChars] using h

end

mutual

theorem written_prettyChars : ∀ (level : Nat) (v : Value), Written v (v.prettyChars level)
  | _, .null => .null
  | _, .bool true => .true
  | _, .bool false => .false
  | _, .number n => .number n
  | _, .string s => .string s
  | _, .array [] => .emptyArray layout_nil
  | level, .array (v :: vs) =>
    .array (layout_newLine (level + 1)) (written_prettyChars (level + 1) v)
      (written_prettyItems level vs)
  | _, .object [] => .emptyObject layout_nil
  | level, .object ((name, v) :: fs) => by
    have h := Written.object (layout_newLine (level + 1))
      (.of_gap name layout_blank (written_prettyChars (level + 1) v))
      (written_prettyFields level fs)
    simpa [Value.prettyChars] using h

theorem written_prettyItems : ∀ (level : Nat) (vs : List Value),
    ItemsWritten vs (prettyItems level vs)
  | level, [] => .close (layout_newLine level)
  | level, v :: vs =>
    .comma layout_nil (layout_newLine (level + 1)) (written_prettyChars (level + 1) v)
      (written_prettyItems level vs)

theorem written_prettyFields : ∀ (level : Nat) (fs : Fields),
    FieldsWritten fs (prettyFields level fs)
  | level, [] => .close (layout_newLine level)
  | level, (name, v) :: fs => by
    have h := FieldsWritten.comma layout_nil (layout_newLine (level + 1))
      (.of_gap name layout_blank (written_prettyChars (level + 1) v))
      (written_prettyFields level fs)
    simpa [prettyFields] using h

end

end ClusterConsole.Json
