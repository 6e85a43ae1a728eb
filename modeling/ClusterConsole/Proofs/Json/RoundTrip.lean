import ClusterConsole.Proofs.Json.Grammar
import ClusterConsole.Proofs.Json.Numeral

/-!
# Texts are read back

A value without reals, whose objects name no field twice and which is nested no deeper than the
reader goes, is what is read from any text of it, with layout around it or not.
-/

namespace ClusterConsole.Json

variable {cs more gap before after rest : List Char} {v : Value} {n : Nat}

theorem hexValue_hexDigit (n : Nat) (hn : n < 16) :
    Text.hexValue (Text.hexDigit false n) = n ∧ Text.isHexDigit (Text.hexDigit false n) := by
  revert n
  decide

theorem hexEscape_control {c : Char} (hc : c.toNat < 0x20) (more : List Char) :
    hexEscape ('0' :: '0' :: Text.hexDigit false (c.toNat / 16) ::
      Text.hexDigit false (c.toNat % 16) :: more) = .ok (c, more) := by
  obtain ⟨hhigh, hhigh'⟩ := hexValue_hexDigit (c.toNat / 16) (by omega)
  obtain ⟨hlow, hlow'⟩ := hexValue_hexDigit (c.toNat % 16) (by omega)
  have hzero : Text.hexValue '0' = 0 := rfl
  have hzero' : Text.isHexDigit '0' = true := rfl
  have hquad : hexQuad ('0' :: '0' :: Text.hexDigit false (c.toNat / 16) ::
      Text.hexDigit false (c.toNat % 16) :: more) = .ok (c.toNat, more) := by
    simp only [hexQuad, List.all_cons, List.all_nil, hhigh', hlow', hzero', Bool.and_true,
      if_true, List.foldl_cons, List.foldl_nil, hzero, hhigh, hlow]
    congr 2
    omega
  rw [hexEscape, hquad]
  simp only [bind, Except.bind]
  rw [if_neg (by omega), if_neg (by omega), Char.ofNat_toNat]

theorem stringChars_escapeChar (fuel : Nat) (c : Char) (more : List Char) :
    stringChars (fuel + 1) (escapeChar c ++ more) =
      (stringChars fuel more).map fun r => (c :: r.1, r.2) := by
  unfold escapeChar
  split
  case h_8 hquote hslash _ _ _ _ _ =>
    by_cases hc : c.toNat < 0x20
    · rw [if_pos hc]
      simp only [List.cons_append, List.nil_append, stringChars, escape, hexEscape_control hc, bind,
        Except.bind]
      cases stringChars fuel more <;> rfl
    · rw [if_neg hc, List.singleton_append, stringChars, if_neg hc]
      · cases stringChars fuel more <;> rfl
      · exact hquote
      · exact hslash
  all_goals
    simp only [List.cons_append, List.nil_append, stringChars, escape, bind, Except.bind]
    cases stringChars fuel more <;> rfl

theorem stringChars_flatMap (cs : List Char) {fuel : Nat} (hfuel : cs.length < fuel) :
    stringChars fuel (cs.flatMap escapeChar ++ '"' :: rest) = .ok (cs, rest) := by
  induction cs generalizing fuel with
  | nil =>
    cases fuel with
    | zero => exact absurd hfuel (Nat.not_lt_zero _)
    | succ fuel => rfl
  | cons c cs ih =>
    cases fuel with
    | zero => exact absurd hfuel (Nat.not_lt_zero _)
    | succ fuel =>
      rw [List.flatMap_cons, List.append_assoc, stringChars_escapeChar,
        ih (Nat.lt_of_succ_lt_succ hfuel)]
      rfl

theorem escapeChar_ne_nil (c : Char) : escapeChar c ≠ [] := by
  unfold escapeChar
  split
  case h_8 => split <;> simp
  all_goals simp

theorem length_le_flatMap_escapeChar (cs : List Char) :
    cs.length ≤ (cs.flatMap escapeChar).length := by
  induction cs with
  | nil => exact Nat.le_refl _
  | cons c cs ih =>
    have hc := List.length_pos_iff.2 (escapeChar_ne_nil c)
    rw [List.flatMap_cons, List.length_append, List.length_cons]
    omega

theorem string_quote (s : String) (rest : List Char) :
    string (s.toList.flatMap escapeChar ++ '"' :: rest) = .ok (s, rest) := by
  have hlength := length_le_flatMap_escapeChar s.toList
  have hfuel : s.toList.length < (s.toList.flatMap escapeChar ++ '"' :: rest).length + 1 := by
    rw [List.length_append]
    omega
  rw [string, stringChars_flatMap _ hfuel]
  simp [bind, Except.bind, pure, Except.pure]

/-- What the reader gives back: no reals, no name twice in an object, and at most `levels` deep. -/
def Value.Readable : Nat → Value → Prop
  | _, .null => True
  | _, .bool _ => True
  | _, .string _ => True
  | _, .number n => n.IsInteger
  | 0, .array _ => False
  | 0, .object _ => False
  | n + 1, .array vs => ∀ v ∈ vs, Value.Readable n v
  | n + 1, .object fs => (Fields.names fs).Nodup ∧ ∀ f ∈ fs, Value.Readable n f.2

theorem skipLayout_append (hgap : Layout gap) (cs : List Char) :
    skipLayout (gap ++ cs) = skipLayout cs :=
  List.dropWhile_append_of_pos hgap

theorem skipLayout_gap (hgap : Layout gap) {c : Char} (hc : isLayout c = false) (cs : List Char) :
    skipLayout (gap ++ c :: cs) = c :: cs := by
  rw [skipLayout_append hgap]
  exact List.dropWhile_cons_of_neg (by simp [hc])

theorem endsNumber_gap (hgap : Layout gap) (hrest : EndsNumber rest) :
    EndsNumber (gap ++ rest) := by
  cases gap with
  | nil => exact hrest
  | cons c gap =>
    have hc : isLayout c = true := hgap c (.head _)
    simp only [isLayout, Bool.or_eq_true, beq_iff_eq] at hc
    rcases hc with ((rfl | rfl) | rfl) | rfl <;> exact ⟨rfl, rfl, rfl⟩

/-- The text is read as the value, whatever layout is before it and if no number goes on behind. -/
def Reads (item : List Char → Except Stop (Value × List Char)) (cs : List Char) (v : Value) :
    Prop :=
  ∀ {gap rest : List Char}, Layout gap → EndsNumber rest →
    item (gap ++ (cs ++ rest)) = .ok (v, rest)

/-- Every text of a value that is readable so deep is read as the value. -/
def ReadsWritten (n : Nat) (item : List Char → Except Stop (Value × List Char)) : Prop :=
  ∀ {v : Value} {cs : List Char}, Written v cs → v.Readable n → Reads item cs v

def StartsValue (cs : List Char) : Prop :=
  ∃ c more, cs = c :: more ∧ isLayout c = false ∧ c ≠ ']'

theorem StartsValue.append (h : StartsValue cs) (rest : List Char) : StartsValue (cs ++ rest) := by
  obtain ⟨c, more, rfl, hc, hne⟩ := h
  exact ⟨c, more ++ rest, rfl, hc, hne⟩

theorem StartsValue.of_digits (hne : cs ≠ []) (h : ∀ c ∈ cs, c.isDigit) : StartsValue cs := by
  cases cs with
  | nil => exact absurd rfl hne
  | cons c cs =>
    have hc : c.isDigit = true := h c (.head _)
    refine ⟨c, cs, rfl, Bool.eq_false_iff.2 ?_, ?_⟩
    · intro hlayout
      simp only [isLayout, Bool.or_eq_true, beq_iff_eq] at hlayout
      rcases hlayout with ((rfl | rfl) | rfl) | rfl <;> exact absurd hc (by decide)
    · rintro rfl
      exact absurd hc (by decide)

theorem isDigit_toDigits (n : Nat) : ∀ c ∈ Nat.toDigits 10 n, c.isDigit :=
  fun _ hc => Nat.isDigit_of_mem_toDigits (by decide) (by decide) hc

theorem Number.chars_starts {m : Number} (hm : m.IsInteger) : StartsValue m.chars := by
  cases m with
  | natural m =>
    rw [Number.chars_natural]
    exact .of_digits Nat.toDigits_ne_nil (isDigit_toDigits _)
  | negative m =>
    rw [Number.chars_negative]
    exact ⟨_, _, rfl, rfl, by decide⟩
  | real x => exact hm.elim

theorem Written.starts (h : Written v cs) (hv : v.Readable n) : StartsValue cs := by
  cases h with
  | number m => exact Number.chars_starts (by cases n <;> exact hv)
  | _ => exact ⟨_, _, rfl, rfl, by decide⟩

theorem StartsValue.skipLayout_gap (h : StartsValue cs) (hgap : Layout gap) :
    skipLayout (gap ++ cs) = cs := by
  obtain ⟨c, more, rfl, hc, -⟩ := h
  exact Json.skipLayout_gap hgap hc more

section Sequences

variable {item : List Char → Except Stop (Value × List Char)} {vs : List Value} {fs : Fields}

theorem moreItems_close (hgap : Layout gap) (fuel : Nat) (rest : List Char) :
    moreItems item (fuel + 1) (gap ++ ']' :: rest) = .ok ([], rest) := by
  rw [moreItems, skipLayout_gap hgap rfl]
  rfl

theorem moreItems_comma (hbefore : Layout before) (hafter : Layout after) (h : StartsValue cs)
    (fuel : Nat) :
    moreItems item (fuel + 1) (before ++ ',' :: (after ++ cs)) = do
      let (v, next) ← item cs
      let (vs, last) ← moreItems item fuel next
      return (v :: vs, last) := by
  have hskip := h.skipLayout_gap hafter
  obtain ⟨c, more, rfl, -, hne⟩ := h
  rw [moreItems, skipLayout_gap hbefore rfl]
  simp only [hskip]
  split
  case h_1 h => cases h
  case h_2 h => exact absurd (List.cons.inj h).1 hne
  case h_3 => rfl

theorem items_first (hgap : Layout gap) (h : StartsValue cs) :
    items item (gap ++ cs) = do
      let (v, next) ← item cs
      let (vs, last) ← moreItems item (next.length + 1) next
      return (v :: vs, last) := by
  have hskip := h.skipLayout_gap hgap
  obtain ⟨c, more, rfl, -, hne⟩ := h
  rw [items, hskip]
  split
  case h_1 h => cases h
  case h_2 h => exact absurd (List.cons.inj h).1 hne
  case h_3 => rfl

theorem ItemsWritten.endsNumber (h : ItemsWritten vs more) (rest : List Char) :
    EndsNumber (more ++ rest) := by
  cases h with
  | close hgap =>
    rw [List.append_assoc]
    exact endsNumber_gap hgap ⟨rfl, rfl, rfl⟩
  | comma hbefore hafter hv hvs =>
    simp only [List.append_assoc]
    exact endsNumber_gap hbefore ⟨rfl, rfl, rfl⟩

theorem FieldsWritten.endsNumber (h : FieldsWritten fs more) (rest : List Char) :
    EndsNumber (more ++ rest) := by
  cases h with
  | close hgap =>
    rw [List.append_assoc]
    exact endsNumber_gap hgap ⟨rfl, rfl, rfl⟩
  | comma hbefore hafter hf hfs =>
    simp only [List.append_assoc]
    exact endsNumber_gap hbefore ⟨rfl, rfl, rfl⟩

theorem ItemsWritten.length_lt (h : ItemsWritten vs more) : vs.length < more.length := by
  induction vs generalizing more with
  | nil =>
    cases h with
    | close hgap => simp
  | cons v vs ih =>
    cases h with
    | comma hbefore hafter hv hvs =>
      have hrest := ih hvs
      simp only [List.length_append, List.length_cons]
      omega

theorem FieldsWritten.length_lt (h : FieldsWritten fs more) : fs.length < more.length := by
  induction fs generalizing more with
  | nil =>
    cases h with
    | close hgap => simp
  | cons f fs ih =>
    cases h with
    | comma hbefore hafter hf hfs =>
      have hrest := ih hfs
      simp only [List.length_append, List.length_cons]
      omega

theorem ItemsWritten.read (h : ItemsWritten vs more) (hvs : ∀ v ∈ vs, v.Readable n)
    (hread : ReadsWritten n item) {fuel : Nat}
    (hfuel : vs.length < fuel) (rest : List Char) :
    moreItems item fuel (more ++ rest) = .ok (vs, rest) := by
  induction vs generalizing more fuel with
  | nil =>
    obtain ⟨fuel, rfl⟩ := Nat.exists_eq_succ_of_ne_zero (Nat.ne_zero_of_lt hfuel)
    cases h with
    | close hgap =>
      rw [List.append_assoc]
      exact moreItems_close hgap fuel rest
  | cons v vs ih =>
    obtain ⟨fuel, rfl⟩ := Nat.exists_eq_succ_of_ne_zero (Nat.ne_zero_of_lt hfuel)
    obtain ⟨hv, hvs⟩ := List.forall_mem_cons.1 hvs
    cases h with
    | @comma before after cs more _ _ hbefore hafter hwritten hmore =>
      have hitem : item (cs ++ (more ++ rest)) = .ok (v, more ++ rest) :=
        hread hwritten hv layout_nil (hmore.endsNumber rest)
      have hrest := ih hmore hvs (Nat.lt_of_succ_lt_succ hfuel)
      simp only [List.append_assoc, List.cons_append]
      rw [moreItems_comma hbefore hafter ((hwritten.starts hv).append _), hitem]
      simp only [bind, Except.bind, hrest]
      rfl

theorem items_written (hgap : Layout gap) (hwritten : Written v cs) (h : ItemsWritten vs more)
    (hvs : ∀ w ∈ v :: vs, w.Readable n)
    (hread : ReadsWritten n item) (rest : List Char) :
    items item (gap ++ (cs ++ (more ++ rest))) = .ok (v :: vs, rest) := by
  obtain ⟨hv, hvs⟩ := List.forall_mem_cons.1 hvs
  have hitem : item (cs ++ (more ++ rest)) = .ok (v, more ++ rest) :=
    hread hwritten hv layout_nil (h.endsNumber rest)
  have hfuel : vs.length < (more ++ rest).length + 1 := by
    have hlength := h.length_lt
    rw [List.length_append]
    omega
  rw [items_first hgap ((hwritten.starts hv).append _), hitem]
  simp only [bind, Except.bind, h.read hvs hread hfuel rest]
  rfl

theorem FieldWritten.read {f : String × Value} (h : FieldWritten f cs) (hf : f.2.Readable n)
    (hread : ReadsWritten n item) :
    ∃ inner, cs = '"' :: inner ∧
      ∀ rest, EndsNumber rest → field item (inner ++ rest) = .ok (f, rest) := by
  cases h with
  | @colon before after cs name v hbefore hafter hwritten =>
    refine ⟨name.toList.flatMap escapeChar ++ '"' :: (before ++ ':' :: (after ++ cs)),
      by simp [quote], ?_⟩
    intro rest hrest
    have hvalue : item (after ++ (cs ++ rest)) = .ok (v, rest) := hread hwritten hf hafter hrest
    have hcolon := skipLayout_gap hbefore (c := ':') rfl (after ++ (cs ++ rest))
    simp only [List.append_assoc, List.cons_append]
    rw [field, string_quote]
    simp only [bind, Except.bind, hcolon, hvalue]
    rfl

theorem moreFields_close (hgap : Layout gap) (fuel : Nat) (rest : List Char) :
    moreFields item (fuel + 1) (gap ++ '}' :: rest) = .ok ([], rest) := by
  rw [moreFields, skipLayout_gap hgap rfl]
  rfl

theorem moreFields_comma (hbefore : Layout before) (hafter : Layout after) (fuel : Nat)
    (inner : List Char) :
    moreFields item (fuel + 1) (before ++ ',' :: (after ++ '"' :: inner)) = do
      let (f, next) ← field item inner
      let (fs, last) ← moreFields item fuel next
      return (f :: fs, last) := by
  rw [moreFields, skipLayout_gap hbefore rfl]
  simp only [skipLayout_gap hafter (c := '"') rfl]

theorem fields_first (hgap : Layout gap) (inner : List Char) :
    fields item (gap ++ '"' :: inner) = do
      let (f, next) ← field item inner
      let (fs, last) ← moreFields item (next.length + 1) next
      return (f :: fs, last) := by
  rw [fields, skipLayout_gap hgap rfl]
  rfl

theorem FieldsWritten.read (h : FieldsWritten fs more) (hfs : ∀ f ∈ fs, f.2.Readable n)
    (hread : ReadsWritten n item) {fuel : Nat}
    (hfuel : fs.length < fuel) (rest : List Char) :
    moreFields item fuel (more ++ rest) = .ok (fs, rest) := by
  induction fs generalizing more fuel with
  | nil =>
    obtain ⟨fuel, rfl⟩ := Nat.exists_eq_succ_of_ne_zero (Nat.ne_zero_of_lt hfuel)
    cases h with
    | close hgap =>
      rw [List.append_assoc]
      exact moreFields_close hgap fuel rest
  | cons f fs ih =>
    obtain ⟨fuel, rfl⟩ := Nat.exists_eq_succ_of_ne_zero (Nat.ne_zero_of_lt hfuel)
    obtain ⟨hf, hfs⟩ := List.forall_mem_cons.1 hfs
    cases h with
    | @comma before after cs more _ _ hbefore hafter hwritten hmore =>
      obtain ⟨inner, rfl, hfield⟩ := hwritten.read hf hread
      have hrest := ih hmore hfs (Nat.lt_of_succ_lt_succ hfuel)
      simp only [List.append_assoc, List.cons_append]
      rw [moreFields_comma hbefore hafter, hfield _ (hmore.endsNumber rest)]
      simp only [bind, Except.bind, hrest]
      rfl

theorem fields_written {f : String × Value} (hgap : Layout gap) (hwritten : FieldWritten f cs)
    (h : FieldsWritten fs more) (hfs : ∀ g ∈ f :: fs, g.2.Readable n)
    (hread : ReadsWritten n item) (rest : List Char) :
    fields item (gap ++ (cs ++ (more ++ rest))) = .ok (f :: fs, rest) := by
  obtain ⟨hf, hfs⟩ := List.forall_mem_cons.1 hfs
  obtain ⟨inner, rfl, hfield⟩ := hwritten.read hf hread
  have hfuel : fs.length < (more ++ rest).length + 1 := by
    have hlength := h.length_lt
    rw [List.length_append]
    omega
  rw [List.cons_append, fields_first hgap, hfield _ (h.endsNumber rest)]
  simp only [bind, Except.bind, h.read hfs hread hfuel rest]
  rfl

end Sequences

namespace Fields

variable {α : Type}

theorem insert_of_not_mem {name : String} {v : α} {fs : List (String × α)}
    (h : name ∉ names fs) : insert name v fs = fs ++ [(name, v)] := by
  induction fs with
  | nil => rfl
  | cons f fs ih =>
    have hne : f.1 ≠ name := fun he => h (he ▸ List.mem_map_of_mem (.head _))
    have hrest : name ∉ names fs := fun hm => h (.tail _ hm)
    rw [insert, if_neg hne, ih hrest, List.cons_append]

theorem ofList_of_nodup {fs : List (String × α)} (h : (names fs).Nodup) : ofList fs = fs := by
  have hfold : ∀ (fs acc : List (String × α)), (names (acc ++ fs)).Nodup →
      fs.foldl (fun acc f => insert f.1 f.2 acc) acc = acc ++ fs := by
    intro fs
    induction fs with
    | nil => intro acc _; exact (List.append_nil acc).symm
    | cons f fs ih =>
      intro acc hacc
      have hnew : f.1 ∉ names acc := by
        intro hm
        rw [names, List.map_append] at hacc
        exact (List.nodup_append.1 hacc).2.2 f.1 hm f.1 (List.mem_map_of_mem (.head _)) rfl
      have happend : acc ++ [(f.1, f.2)] ++ fs = acc ++ f :: fs := List.append_cons _ _ _ |>.symm
      rw [List.foldl_cons, insert_of_not_mem hnew, ih, happend]
      rwa [happend]
  exact hfold fs [] h

end Fields

theorem value_gap (levels : Nat) (hgap : Layout gap) (cs : List Char) :
    value levels (gap ++ cs) = value levels cs := by
  rw [value.eq_def, value.eq_def, skipLayout_append hgap]

theorem value_digits (levels : Nat) {ds : List Char} (hne : ds ≠ []) (hds : ∀ c ∈ ds, c.isDigit)
    (rest : List Char) :
    value levels (ds ++ rest) = (Numeral.unsigned false (ds ++ rest)).map
      fun r => (.number r.1, r.2) := by
  have hskip := ((StartsValue.of_digits hne hds).append rest).skipLayout_gap layout_nil
  rw [List.nil_append] at hskip
  cases ds with
  | nil => exact absurd rfl hne
  | cons d ds =>
    have hd : d.isDigit = true := hds d (.head _)
    have hother : ∀ c : Char, c.isDigit = false → d ≠ c := by
      rintro c hc rfl
      rw [hd] at hc
      cases hc
    rw [value.eq_def, hskip, List.cons_append]
    split
    case h_9 c cs _ _ _ _ _ _ _ h =>
      obtain ⟨rfl, rfl⟩ := List.cons.inj h
      rw [if_pos hd]
      cases Numeral.unsigned false (d :: (ds ++ rest)) <;> rfl
    case h_1 h => cases h
    all_goals
      next h => exact absurd (List.cons.inj h).1 (hother _ (by decide))

theorem value_number (levels : Nat) {m : Number} (hm : m.IsInteger) (hrest : EndsNumber rest) :
    value levels (m.chars ++ rest) = .ok (.number m, rest) := by
  cases m with
  | natural m =>
    have hfit : m.toNat < 0x10000000000000000 := m.toNat_lt
    have hread := Numeral.unsigned_toDigits false hfit hrest
    rw [Number.chars_natural, value_digits levels Nat.toDigits_ne_nil
      (isDigit_toDigits _), hread, Numeral.integer_natural]
    rfl
  | negative m =>
    have hfit : m.val + 1 < 0x10000000000000000 := by omega
    have hread := Numeral.unsigned_toDigits true hfit hrest
    rw [Number.chars_negative, List.cons_append, value.eq_def]
    change (Numeral.unsigned true (Nat.toDigits 10 (m.val + 1) ++ rest)).bind
      (fun r => .ok (Value.number r.1, r.2)) = _
    rw [hread, Numeral.integer_negative]
    rfl
  | real x => exact hm.elim

theorem value_string (levels : Nat) (s : String) (rest : List Char) :
    value levels (quote s ++ rest) = .ok (.string s, rest) := by
  have hquote : quote s ++ rest = '"' :: (s.toList.flatMap escapeChar ++ '"' :: rest) := by
    simp [quote]
  rw [hquote, value.eq_def]
  change (string (s.toList.flatMap escapeChar ++ '"' :: rest)).bind
    (fun r => .ok (Value.string r.1, r.2)) = _
  rw [string_quote]
  rfl

theorem value_array {levels : Nat} {vs : List Value} {inner : List Char}
    (h : items (value levels) inner = .ok (vs, rest)) :
    value (levels + 1) ('[' :: inner) = .ok (.array vs, rest) := by
  rw [value.eq_def]
  change (items (value levels) inner).bind (fun r => .ok (Value.array r.1, r.2)) = _
  rw [h]
  rfl

theorem value_object {levels : Nat} {fs : Fields} {inner : List Char}
    (h : fields (value levels) inner = .ok (fs, rest)) (hnames : (Fields.names fs).Nodup) :
    value (levels + 1) ('{' :: inner) = .ok (.object fs, rest) := by
  rw [value.eq_def]
  change (fields (value levels) inner).bind
    (fun r => .ok (Value.object (Fields.ofList r.1), r.2)) = _
  rw [h]
  change Except.ok (Value.object (Fields.ofList fs), rest) = _
  rw [Fields.ofList_of_nodup hnames]

theorem value_readsWritten (n : Nat) : ReadsWritten n (value n) := by
  induction n with
  | zero =>
    intro v cs h hv gap rest hgap hrest
    rw [value_gap 0 hgap]
    cases h with
    | null => rfl
    | true => rfl
    | false => rfl
    | number m => exact value_number 0 hv hrest
    | string s => exact value_string 0 s rest
    | _ => exact hv.elim
  | succ n ih =>
    intro v cs h hv gap rest hgap hrest
    rw [value_gap (n + 1) hgap]
    cases h with
    | null => rw [value.eq_def]; rfl
    | true => rw [value.eq_def]; rfl
    | false => rw [value.eq_def]; rfl
    | number m => exact value_number (n + 1) hv hrest
    | string s => exact value_string (n + 1) s rest
    | emptyArray hinner =>
      simp only [List.append_assoc, List.cons_append]
      apply value_array
      rw [items, skipLayout_gap hinner rfl]
      rfl
    | array hinner hw hws =>
      simp only [List.append_assoc, List.cons_append]
      exact value_array (items_written hinner hw hws hv ih rest)
    | emptyObject hinner =>
      simp only [List.append_assoc, List.cons_append]
      refine value_object ?_ List.nodup_nil
      rw [fields, skipLayout_gap hinner rfl]
      rfl
    | object hinner hf hfs =>
      simp only [List.append_assoc, List.cons_append]
      exact value_object (fields_written hinner hf hfs hv.2 ih rest) hv.1

/-- With layout around it, too, a text of a readable value is read as that value. -/
theorem Written.parse_eq (h : Written v cs) (hv : v.Readable maxDepth) (hbefore : Layout before)
    (hafter : Layout after) : parse (String.ofList (before ++ (cs ++ after))) = .ok v := by
  have hends : EndsNumber after := by
    rw [← List.append_nil after]
    exact endsNumber_gap hafter ⟨rfl, rfl, rfl⟩
  have hskip : skipLayout after = [] := by
    rw [← List.append_nil after, skipLayout_append hafter]
    rfl
  rw [parse, String.toList_ofList, parseChars, value_readsWritten maxDepth h hv hbefore hends]
  simp only [bind, Except.bind, hskip]
  rfl

theorem parse_text (h : v.Readable maxDepth) : parse v.text = .ok v := by
  have hread := (written_chars v).parse_eq h layout_nil layout_nil
  rwa [List.nil_append, List.append_nil] at hread

theorem parse_pretty (h : v.Readable maxDepth) : parse v.pretty = .ok v := by
  have hread := (written_prettyChars 0 v).parse_eq h layout_nil layout_nil
  rwa [List.nil_append, List.append_nil] at hread

end ClusterConsole.Json
