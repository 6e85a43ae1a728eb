import ClusterConsole.Filter.Predicate
import ClusterConsole.Proofs.Text.Trim
import Mathlib.Data.List.Count

/-!
# Filters on a command line

An argument is cut at its first two colons. It is read exactly when it has two colons and an
operator is spelled between them, and its value is all that follows, as it stands. A predicate is
read back from the argument that is written for it.
-/

namespace ClusterConsole.Filter

open Text (Trimmed lowerAscii trim trim_of_trimmed trimmed_iff)

variable {s property operator value : String} {cs before after : List Char}

theorem splitColon_colon (cs : List Char) : splitColon (':' :: cs) = some ([], cs) := rfl

theorem splitColon_cons {c : Char} (h : c ≠ ':') (cs : List Char) :
    splitColon (c :: cs) = (splitColon cs).map fun r => (c :: r.1, r.2) := by
  rw [splitColon]
  exact h

theorem splitColon_append (h : ':' ∉ before) (after : List Char) :
    splitColon (before ++ ':' :: after) = some (before, after) := by
  induction before with
  | nil => rfl
  | cons c before ih =>
    obtain ⟨hc, hbefore⟩ := List.ne_and_not_mem_of_not_mem_cons h
    rw [List.cons_append, splitColon_cons (Ne.symm hc), ih hbefore, Option.map_some]

theorem eq_append_of_splitColon (h : splitColon cs = some (before, after)) :
    cs = before ++ ':' :: after ∧ ':' ∉ before := by
  induction cs generalizing before with
  | nil => cases h
  | cons c cs ih =>
    by_cases hc : c = ':'
    · rw [hc, splitColon_colon] at h
      cases h
      exact ⟨by rw [hc, List.nil_append], List.not_mem_nil⟩
    · rw [splitColon_cons hc] at h
      obtain ⟨⟨_, _⟩, hr, heq⟩ := Option.map_eq_some_iff.1 h
      cases heq
      obtain ⟨rfl, hbefore⟩ := ih hr
      exact ⟨rfl, List.not_mem_cons_of_ne_of_not_mem (Ne.symm hc) hbefore⟩

theorem not_mem_of_splitColon (h : splitColon cs = none) : ':' ∉ cs := by
  intro hmem
  obtain ⟨before, after, rfl, hbefore⟩ := List.eq_append_cons_of_mem hmem
  rw [splitColon_append hbefore] at h
  cases h

namespace Operator

def spellings : Operator → List String
  | .equal => ["equal", "eq", "="]
  | .like => ["like", "~"]

/-- The text is one of the operator's spellings, in any ASCII case and between any blanks. -/
def SpelledBy (o : Operator) (text : String) : Prop := lowerAscii (trim text) ∈ o.spellings

instance (o : Operator) (text : String) : Decidable (o.SpelledBy text) :=
  inferInstanceAs (Decidable (_ ∈ _))

theorem parse_eq_ok_iff {o : Operator} : parse s = .ok o ↔ o.SpelledBy s := by
  unfold parse SpelledBy
  split <;> cases o <;> simp_all [spellings]

theorem parse_of_unspelled (h : ∀ o : Operator, ¬o.SpelledBy s) :
    parse s = .error (.unsupportedOperator (lowerAscii (trim s))) := by
  cases hs : parse s with
  | ok o => exact absurd (parse_eq_ok_iff.1 hs) (h o)
  | error e =>
    unfold parse at hs
    split at hs <;> cases hs
    rfl

theorem spelledBy_name (o : Operator) : o.SpelledBy o.name := by
  cases o <;> decide

end Operator

namespace Predicate

structure Cut (s property operator value : String) : Prop where
  text : s = property ++ ":" ++ operator ++ ":" ++ value
  property : ':' ∉ property.toList
  operator : ':' ∉ operator.toList

theorem Cut.toList_eq (h : Cut s property operator value) :
    s.toList = property.toList ++ ':' :: (operator.toList ++ ':' :: value.toList) := by
  simp [h.text]

theorem parse_of_cut (h : Cut s property operator value) :
    parse s = (Operator.parse operator).map fun o => ⟨trim property, o, value⟩ := by
  simp only [parse, h.toList_eq, splitColon_append h.property, splitColon_append h.operator,
    String.ofList_toList]
  cases Operator.parse operator <;> rfl

theorem Cut.two_le_count (h : Cut s property operator value) : 2 ≤ s.toList.count ':' := by
  rw [h.toList_eq, List.count_append, List.count_cons_self, List.count_append,
    List.count_cons_self]
  omega

theorem exists_cut_or_few (s : String) :
    (∃ property operator value, Cut s property operator value) ∨
      s.toList.count ':' < 2 ∧ parse s = .error (.notPredicate s) := by
  cases hfirst : splitColon s.toList with
  | none =>
    have hcount : s.toList.count ':' = 0 := List.count_eq_zero.2 (not_mem_of_splitColon hfirst)
    exact .inr ⟨by omega, by simp [parse, hfirst]⟩
  | some parts =>
    obtain ⟨property, rest⟩ := parts
    obtain ⟨hchars, hproperty⟩ := eq_append_of_splitColon hfirst
    cases hsecond : splitColon rest with
    | none =>
      have hcount : s.toList.count ':' = 1 := by
        rw [hchars, List.count_append, List.count_cons_self,
          List.count_eq_zero.2 hproperty, List.count_eq_zero.2 (not_mem_of_splitColon hsecond)]
      exact .inr ⟨by omega, by simp [parse, hfirst, hsecond]⟩
    | some parts =>
      obtain ⟨operator, value⟩ := parts
      obtain ⟨rfl, hoperator⟩ := eq_append_of_splitColon hsecond
      refine .inl ⟨String.ofList property, String.ofList operator, String.ofList value, ?_, ?_, ?_⟩
      · rw [← String.toList_inj, hchars]
        simp
      · rwa [String.toList_ofList]
      · rwa [String.toList_ofList]

theorem exists_cut_iff :
    (∃ property operator value, Cut s property operator value) ↔ 2 ≤ s.toList.count ':' := by
  constructor
  · rintro ⟨property, operator, value, hcut⟩
    exact hcut.two_le_count
  · intro hcount
    rcases exists_cut_or_few s with hcut | ⟨hfew, -⟩
    · exact hcut
    · omega

inductive Reads (s : String) : Except ArgumentError Predicate → Prop where
  | predicate {property operator value : String} {o : Operator}
    (cut : Cut s property operator value) (spelled : o.SpelledBy operator) :
    Reads s (.ok ⟨trim property, o, value⟩)
  | unspelled {property operator value : String} (cut : Cut s property operator value)
    (none : ∀ o : Operator, ¬o.SpelledBy operator) :
    Reads s (.error (.unsupportedOperator (lowerAscii (trim operator))))
  | few (colons : s.toList.count ':' < 2) : Reads s (.error (.notPredicate s))

theorem reads_parse (s : String) : Reads s (parse s) := by
  rcases exists_cut_or_few s with ⟨property, operator, value, hcut⟩ | ⟨hfew, hparse⟩
  · rw [parse_of_cut hcut]
    by_cases hspelled : ∃ o : Operator, o.SpelledBy operator
    · obtain ⟨o, ho⟩ := hspelled
      rw [Operator.parse_eq_ok_iff.2 ho]
      exact .predicate hcut ho
    · rw [Operator.parse_of_unspelled (not_exists.1 hspelled)]
      exact .unspelled hcut (not_exists.1 hspelled)
  · rw [hparse]
    exact .few hfew

theorem Reads.parse_eq {r : Except ArgumentError Predicate} (h : Reads s r) : parse s = r := by
  cases h with
  | predicate hcut ho =>
    rw [parse_of_cut hcut, Operator.parse_eq_ok_iff.2 ho]
    rfl
  | unspelled hcut hnone =>
    rw [parse_of_cut hcut, Operator.parse_of_unspelled hnone]
    rfl
  | few hfew =>
    rcases exists_cut_or_few s with hcut | ⟨-, hparse⟩
    · exact absurd (exists_cut_iff.1 hcut) (by omega)
    · exact hparse

theorem parse_eq_iff {r : Except ArgumentError Predicate} : parse s = r ↔ Reads s r :=
  ⟨fun h => h ▸ reads_parse s, Reads.parse_eq⟩

theorem cut_argument {p : Predicate} (h : ':' ∉ p.property.toList) :
    Cut p.argument p.property p.operator.name p.value :=
  ⟨rfl, h, by cases p.operator <;> decide⟩

theorem reads_argument {p : Predicate} (htrimmed : Trimmed p.property)
    (hcolon : ':' ∉ p.property.toList) : Reads p.argument (.ok p) := by
  have hread : Reads p.argument (.ok ⟨trim p.property, p.operator, p.value⟩) :=
    .predicate (cut_argument hcolon) p.operator.spelledBy_name
  rwa [trim_of_trimmed htrimmed] at hread

/-- What comes of an argument is decided by its first two colons: it is read as a predicate exactly
when it has them and an operator is spelled between them. The property is what stands before them
without the blanks around it, and the value all that stands behind them. Of an argument with fewer
colons the error shows the whole, and else the operator that is none. A predicate whose property has
no colon and no blank at its ends is read back from the argument that is written for it. -/
theorem argument_read_iff :
    (∀ s r, parse s = r ↔ Reads s r) ∧
    (∀ s, (∃ property operator value, Cut s property operator value) ↔ 2 ≤ s.toList.count ':') ∧
    ∀ p : Predicate, Trimmed p.property → ':' ∉ p.property.toList → parse p.argument = .ok p :=
  ⟨fun _ _ => parse_eq_iff, fun _ => exists_cut_iff,
    fun _ htrimmed hcolon => (reads_argument htrimmed hcolon).parse_eq⟩

theorem padded_argument_read :
    Trimmed "url" ∧ ':' ∉ "url".toList ∧
    parse "url:Like: http://a:1 " = .ok ⟨"url", .like, " http://a:1 "⟩ ∧
    parse "\u3000url :\tLIKE :http://a" = .ok ⟨"url", .like, "http://a"⟩ ∧
    parse "url: Greater :1" = .error (.unsupportedOperator "greater") ∧
    parse "url:Like" = .error (.notPredicate "url:Like") := by
  obtain ⟨hread, -, hback⟩ := argument_read_iff
  have htrimmed : Trimmed "url" := trimmed_iff.2 (by decide)
  have hcolon : ':' ∉ "url".toList := by decide
  have hpadded : Cut "\u3000url :\tLIKE :http://a" "\u3000url " "\tLIKE " "http://a" :=
    ⟨by decide, by decide, by decide⟩
  have hlike : Reads "\u3000url :\tLIKE :http://a" (.ok ⟨trim "\u3000url ", .like, "http://a"⟩) :=
    .predicate hpadded (by decide)
  have hother : Cut "url: Greater :1" "url" " Greater " "1" := ⟨by decide, by decide, by decide⟩
  have hgreater : Reads "url: Greater :1"
      (.error (.unsupportedOperator (lowerAscii (trim " Greater ")))) :=
    .unspelled hother fun o => by cases o <;> decide
  rw [(by decide : trim "\u3000url " = "url")] at hlike
  rw [(by decide : lowerAscii (trim " Greater ") = "greater")] at hgreater
  exact ⟨htrimmed, hcolon, hback ⟨"url", .like, " http://a:1 "⟩ htrimmed hcolon,
    (hread _ _).2 hlike, (hread _ _).2 hgreater, (hread _ _).2 (.few (by decide))⟩

end Predicate

end ClusterConsole.Filter
