import ClusterConsole.Text.Lowercase

/-!
# Lowercase in the middle of a text

A part of a text becomes the same in lowercase as it does alone, unless it has a capital sigma that
takes another form there. A sigma has its form for good when the characters that decide on it belong
to the part. If they do not, then there is a text around the part where it takes the other form, and
where the lowercase part is not to be found.
-/

namespace ClusterConsole.Text

variable {before before' after after' cs ds : List Char} {c x : Char}

def finalSigma : Char := '\u03c2'

def innerSigma : Char := '\u03c3'

/-- What a capital sigma becomes. The characters before it come nearest first. -/
def sigmaForm (before after : List Char) : Char :=
  if meetsCased before && !meetsCased after then finalSigma else innerSigma

def lowerBetween (before : List Char) (c : Char) (after : List Char) : List Char :=
  if c = capitalSigma then [sigmaForm before after] else lowerChar c

/-- A part in lowercase, in a text with these characters before it, the nearest first, and these
behind it. -/
def lowerWithin : List Char → List Char → List Char → List Char
  | _, [], _ => []
  | before, c :: cs, after =>
    lowerBetween before c (cs ++ after) ++ lowerWithin (c :: before) cs after

theorem lowerFrom_cons (before : List Char) (c : Char) (cs : List Char) :
    lowerFrom before (c :: cs) = lowerBetween before c cs ++ lowerFrom (c :: before) cs := rfl

theorem lowerWithin_nothing_behind (before cs : List Char) :
    lowerWithin before cs [] = lowerFrom before cs := by
  induction cs generalizing before with
  | nil => rfl
  | cons c cs ih => rw [lowerWithin, ih, List.append_nil, lowerFrom_cons]

theorem lowerWithin_append (before cs ds after : List Char) :
    lowerWithin before (cs ++ ds) after =
      lowerWithin before cs (ds ++ after) ++ lowerWithin (cs.reverse ++ before) ds after := by
  induction cs generalizing before with
  | nil => rfl
  | cons c cs ih =>
    rw [List.cons_append, lowerWithin, lowerWithin, ih, List.append_assoc, List.append_assoc,
      List.reverse_cons, List.append_assoc, List.singleton_append]

theorem lowercaseChars_eq (cs : List Char) : lowercaseChars cs = lowerWithin [] cs [] :=
  (lowerWithin_nothing_behind [] cs).symm

theorem lowercaseChars_append (cs ds : List Char) :
    lowercaseChars (cs ++ ds) = lowerWithin [] cs ds ++ lowerWithin cs.reverse ds [] := by
  rw [lowercaseChars_eq, lowerWithin_append, List.append_nil, List.append_nil]

/-- The forms that the capital sigmas of a part have at one place are related to those that they
have at another. -/
def FormsRelated (R : Char → Char → Prop) (cs before after before' after' : List Char) : Prop :=
  ∀ l r, cs = l ++ capitalSigma :: r →
    R (sigmaForm (l.reverse ++ before) (r ++ after))
      (sigmaForm (l.reverse ++ before') (r ++ after'))

namespace FormsRelated

variable {R : Char → Char → Prop}

theorem left (h : FormsRelated R (cs ++ ds) before after before' after') :
    FormsRelated R cs before (ds ++ after) before' (ds ++ after') := by
  rintro l r rfl
  simpa using h l (r ++ ds) (by simp)

theorem right (h : FormsRelated R (cs ++ ds) before after before' after') :
    FormsRelated R ds (cs.reverse ++ before) after (cs.reverse ++ before') after' := by
  rintro l r rfl
  simpa using h (cs ++ l) r (by simp)

theorem head (h : FormsRelated R (capitalSigma :: cs) before after before' after') :
    R (sigmaForm before (cs ++ after)) (sigmaForm before' (cs ++ after')) :=
  h [] cs rfl

theorem tail (h : FormsRelated R (c :: cs) before after before' after') :
    FormsRelated R cs (c :: before) after (c :: before') after' := by
  rw [← List.singleton_append] at h
  exact h.right

theorem lowerWithin_eq (h : FormsRelated Eq cs before after before' after') :
    lowerWithin before cs after = lowerWithin before' cs after' := by
  induction cs generalizing before before' with
  | nil => rfl
  | cons c cs ih =>
    rw [lowerWithin, lowerWithin, ih h.tail, lowerBetween, lowerBetween]
    split
    · next hc =>
      subst hc
      rw [h.head]
    · rfl

theorem count_le (h : FormsRelated (fun y z => y = x → z = x) cs before after before' after') :
    (lowerWithin before cs after).count x ≤ (lowerWithin before' cs after').count x := by
  induction cs generalizing before before' with
  | nil => exact Nat.le_refl _
  | cons c cs ih =>
    have hhead : (lowerBetween before c (cs ++ after)).count x ≤
        (lowerBetween before' c (cs ++ after')).count x := by
      rw [lowerBetween, lowerBetween]
      split
      · next hc =>
        subst hc
        rw [List.count_singleton, List.count_singleton]
        by_cases hx : sigmaForm before (cs ++ after) = x
        · simp [hx, h.head hx]
        · simp [hx]
      · exact Nat.le_refl _
    rw [lowerWithin, lowerWithin, List.count_append, List.count_append]
    exact Nat.add_le_add hhead (ih h.tail)

theorem count_lt {l r : List Char} (h : FormsRelated (fun y z => y = x → z = x)
      (l ++ capitalSigma :: r) before after before' after')
    (hother : sigmaForm (l.reverse ++ before) (r ++ after) ≠ x)
    (hform : sigmaForm (l.reverse ++ before') (r ++ after') = x) :
    (lowerWithin before (l ++ capitalSigma :: r) after).count x <
      (lowerWithin before' (l ++ capitalSigma :: r) after').count x := by
  have hleft := h.left.count_le
  have hright := h.right.tail.count_le
  have hnone : (lowerBetween (l.reverse ++ before) capitalSigma (r ++ after)).count x = 0 := by
    rw [lowerBetween, if_pos rfl, List.count_singleton]
    simp [hother]
  have hone : (lowerBetween (l.reverse ++ before') capitalSigma (r ++ after')).count x = 1 := by
    rw [lowerBetween, if_pos rfl, List.count_singleton]
    simp [hform]
  rw [lowerWithin_append, lowerWithin_append, lowerWithin, lowerWithin]
  simp only [List.count_append]
  omega

end FormsRelated

/-- The characters decide on the form of a sigma next to them: one of them is not skipped. -/
def Decisive (cs : List Char) : Prop := ∃ c ∈ cs, inRanges caseIgnorableRanges c.toNat = false

theorem meetsCased_cons (c : Char) (cs : List Char) :
    meetsCased (c :: cs) =
      if inRanges caseIgnorableRanges c.toNat then meetsCased cs
      else inRanges casedRanges c.toNat := by
  cases h : inRanges caseIgnorableRanges c.toNat <;> simp [meetsCased, h]

theorem meetsCased_append_of_decisive (h : Decisive cs) (ds : List Char) :
    meetsCased (cs ++ ds) = meetsCased cs := by
  induction cs with
  | nil => simp [Decisive] at h
  | cons c cs ih =>
    rw [List.cons_append, meetsCased_cons, meetsCased_cons]
    split
    · next hc =>
      refine ih ?_
      obtain ⟨d, hd, hseen⟩ := h
      rcases List.mem_cons.1 hd with rfl | hd
      · rw [hc] at hseen
        cases hseen
      · exact ⟨d, hd, hseen⟩
    · rfl

theorem meetsCased_append_of_not_decisive (h : ¬ Decisive cs) (ds : List Char) :
    meetsCased (cs ++ ds) = meetsCased ds := by
  induction cs with
  | nil => rfl
  | cons c cs ih =>
    have hc : inRanges caseIgnorableRanges c.toNat = true :=
      Bool.of_not_eq_false fun hc => h ⟨c, List.mem_cons_self, hc⟩
    rw [List.cons_append, meetsCased_cons, if_pos hc]
    exact ih fun ⟨d, hd, hseen⟩ => h ⟨d, List.mem_cons_of_mem _ hd, hseen⟩

theorem meetsCased_of_not_decisive (h : ¬ Decisive cs) : meetsCased cs = false := by
  have hnil := meetsCased_append_of_not_decisive h []
  rwa [List.append_nil] at hnil

theorem sigmaForm_eq_final_iff :
    sigmaForm before after = finalSigma ↔ meetsCased before = true ∧ meetsCased after = false := by
  unfold sigmaForm
  cases meetsCased before <;> cases meetsCased after <;> decide

theorem sigmaForm_eq_inner_iff :
    sigmaForm before after = innerSigma ↔ meetsCased before = false ∨ meetsCased after = true := by
  unfold sigmaForm
  cases meetsCased before <;> cases meetsCased after <;> decide

/-- The form of a sigma is settled by what stands next to it in its own part of a text, whatever
there is before and behind the part. -/
inductive Settled (before after : List Char) : Prop where
  | afterUncased (hdecisive : Decisive before) (huncased : meetsCased before = false)
  | beforeCased (hcased : meetsCased after = true)
  | between (hbefore : Decisive before) (hafter : Decisive after)

theorem Settled.sigmaForm_eq (h : Settled before after) (cs ds : List Char) :
    sigmaForm (before ++ cs) (after ++ ds) = sigmaForm before after := by
  cases h with
  | afterUncased hdecisive huncased =>
    rw [sigmaForm_eq_inner_iff.2 (.inl huncased), sigmaForm_eq_inner_iff,
      meetsCased_append_of_decisive hdecisive]
    exact .inl huncased
  | beforeCased hcased =>
    have hdecisive : Decisive after := by
      by_cases hdecisive : Decisive after
      · exact hdecisive
      · rw [meetsCased_of_not_decisive hdecisive] at hcased
        cases hcased
    rw [sigmaForm_eq_inner_iff.2 (.inr hcased), sigmaForm_eq_inner_iff,
      meetsCased_append_of_decisive hdecisive ds]
    exact .inr hcased
  | between hbefore hafter =>
    rw [sigmaForm, meetsCased_append_of_decisive hbefore, meetsCased_append_of_decisive hafter,
      sigmaForm]

/-- Each capital sigma of a part has the form it has in the part alone. The characters before the
part come nearest first. -/
def FormsKept (before cs after : List Char) : Prop := ∀ l r, cs = l ++ capitalSigma :: r →
  sigmaForm (l.reverse ++ before) (r ++ after) = sigmaForm l.reverse r

def Steady (cs : List Char) : Prop :=
  ∀ l r, cs = l ++ capitalSigma :: r → Settled l.reverse r

theorem steady_of_no_sigma (h : capitalSigma ∉ cs) : Steady cs := by
  rintro l r rfl
  exact absurd (List.mem_append_right l List.mem_cons_self) h

theorem Steady.formsKept (h : Steady cs) (before after : List Char) :
    FormsKept before cs after :=
  fun l r hsplit => (h l r hsplit).sigmaForm_eq before after

theorem FormsKept.infix (h : FormsKept before.reverse cs after) :
    lowercaseChars cs <:+: lowercaseChars (before ++ cs ++ after) := by
  have hpart : lowerWithin before.reverse cs after = lowercaseChars cs := by
    rw [lowercaseChars_eq]
    refine FormsRelated.lowerWithin_eq fun l r hsplit => ?_
    rw [h l r hsplit, List.append_nil, List.append_nil]
  refine ⟨lowerWithin [] before (cs ++ after), lowerWithin (before ++ cs).reverse after [], ?_⟩
  rw [lowercaseChars_append, lowerWithin_append, List.append_nil, hpart]

theorem lowerWithin_letter (before after : List Char) : lowerWithin before ['a'] after = ['a'] := by
  have hletter : lowerChar 'a' = ['a'] := by decide +kernel
  rw [lowerWithin, lowerWithin, List.append_nil, lowerBetween, if_neg (by decide), hletter]

theorem meetsCased_letter : meetsCased ['a'] = true := by decide +kernel

theorem fewer_final_before_letter {l r : List Char} (hcased : meetsCased l.reverse = true)
    (hafter : ¬ Decisive r) :
    (lowercaseChars (l ++ capitalSigma :: r ++ ['a'])).count finalSigma <
      (lowercaseChars (l ++ capitalSigma :: r)).count finalSigma := by
  have hkept : FormsRelated (fun y z => y = finalSigma → z = finalSigma) (l ++ capitalSigma :: r)
      [] ['a'] [] [] := by
    intro l₁ r₁ _ hfinal
    obtain ⟨hbefore, hletter⟩ := sigmaForm_eq_final_iff.1 hfinal
    refine sigmaForm_eq_final_iff.2 ⟨hbefore, ?_⟩
    rw [List.append_nil]
    by_cases hdecisive : Decisive r₁
    · rwa [meetsCased_append_of_decisive hdecisive] at hletter
    · exact meetsCased_of_not_decisive hdecisive
  have hletter : sigmaForm (l.reverse ++ []) (r ++ ['a']) ≠ finalSigma := by
    intro hfinal
    have hnone := (sigmaForm_eq_final_iff.1 hfinal).2
    rw [meetsCased_append_of_not_decisive hafter, meetsCased_letter] at hnone
    cases hnone
  have halone : sigmaForm (l.reverse ++ []) (r ++ []) = finalSigma := by
    rw [List.append_nil, List.append_nil]
    exact sigmaForm_eq_final_iff.2 ⟨hcased, meetsCased_of_not_decisive hafter⟩
  have hfewer := hkept.count_lt hletter halone
  have hnone : ['a'].count finalSigma = 0 := by decide
  rw [lowercaseChars_append, List.count_append, lowerWithin_letter, hnone, Nat.add_zero,
    lowercaseChars_eq]
  exact hfewer

theorem fewer_inner_after_letter {l r : List Char} (hbefore : ¬ Decisive l.reverse)
    (huncased : meetsCased r = false) :
    (lowercaseChars ('a' :: (l ++ capitalSigma :: r))).count innerSigma <
      (lowercaseChars (l ++ capitalSigma :: r)).count innerSigma := by
  have hkept : FormsRelated (fun y z => y = innerSigma → z = innerSigma) (l ++ capitalSigma :: r)
      ['a'] [] [] [] := by
    intro l₁ r₁ _ hinner
    rw [List.append_nil]
    refine sigmaForm_eq_inner_iff.2 ((sigmaForm_eq_inner_iff.1 hinner).imp_left fun hletter => ?_)
    by_cases hdecisive : Decisive l₁.reverse
    · rwa [meetsCased_append_of_decisive hdecisive] at hletter
    · exact meetsCased_of_not_decisive hdecisive
  have hletter : sigmaForm (l.reverse ++ ['a']) (r ++ []) ≠ innerSigma := by
    intro hinner
    rw [List.append_nil] at hinner
    rcases sigmaForm_eq_inner_iff.1 hinner with hnone | hcased
    · rw [meetsCased_append_of_not_decisive hbefore, meetsCased_letter] at hnone
      cases hnone
    · rw [huncased] at hcased
      cases hcased
  have halone : sigmaForm (l.reverse ++ []) (r ++ []) = innerSigma := by
    rw [List.append_nil]
    exact sigmaForm_eq_inner_iff.2 (.inl (meetsCased_of_not_decisive hbefore))
  have hfewer := hkept.count_lt hletter halone
  have hnone : ['a'].count innerSigma = 0 := by decide
  rw [← List.singleton_append, lowercaseChars_append, List.count_append, lowerWithin_letter, hnone,
    Nat.zero_add, lowercaseChars_eq]
  exact hfewer

/-- A part that does not settle its sigmas stands in a text whose lowercase has fewer sigmas of one
form than the part in lowercase. -/
theorem exists_misread (h : ¬ Steady cs) : ∃ text x, cs <:+: text ∧
    (x = finalSigma ∨ x = innerSigma) ∧
    (lowercaseChars text).count x < (lowercaseChars cs).count x := by
  obtain ⟨l, r, rfl, hopen⟩ : ∃ l r, cs = l ++ capitalSigma :: r ∧ ¬ Settled l.reverse r := by
    simpa [Steady] using h
  have huncased : meetsCased r = false :=
    Bool.eq_false_iff.2 fun hcased => hopen (.beforeCased hcased)
  by_cases hbefore : Decisive l.reverse
  · have hcased : meetsCased l.reverse = true :=
      Bool.of_not_eq_false fun huncased => hopen (.afterUncased hbefore huncased)
    have hafter : ¬ Decisive r := fun hafter => hopen (.between hbefore hafter)
    exact ⟨_, finalSigma, (List.prefix_append _ ['a']).isInfix, .inl rfl,
      fewer_final_before_letter hcased hafter⟩
  · exact ⟨_, innerSigma, (List.suffix_cons 'a' _).isInfix, .inr rfl,
      fewer_inner_after_letter hbefore huncased⟩

end ClusterConsole.Text
