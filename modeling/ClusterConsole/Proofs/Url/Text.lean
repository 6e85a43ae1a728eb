import ClusterConsole.Proofs.Url.Path
import ClusterConsole.Url.Parser

/-!
# The text of a URL that was read

The marks of query and fragment stand nowhere before these in such a text, so that its last segment
can be found in it: it is what stands behind the last slash before the first mark.
-/

namespace ClusterConsole.Url

def Unmarked (cs : List Char) : Prop := ∀ c ∈ cs, isTailMark c = false

variable {c : Char} {cs ds s : List Char} {set : EncodeSet}

@[simp] theorem unmarked_nil : Unmarked [] := fun _ hc => absurd hc List.not_mem_nil

@[simp] theorem unmarked_cons : Unmarked (c :: cs) ↔ isTailMark c = false ∧ Unmarked cs :=
  List.forall_mem_cons

@[simp] theorem unmarked_append : Unmarked (cs ++ ds) ↔ Unmarked cs ∧ Unmarked ds :=
  List.forall_mem_append

theorem isTailMark_eq_true_iff : isTailMark c = true ↔ c = '?' ∨ c = '#' := by
  simp [isTailMark]

theorem unmarked_iff : Unmarked cs ↔ '?' ∉ cs ∧ '#' ∉ cs := by
  refine ⟨fun h => ⟨?_, ?_⟩, ?_⟩
  · exact fun hc => absurd (h _ hc) (by decide)
  · exact fun hc => absurd (h _ hc) (by decide)
  · rintro ⟨hquery, hfragment⟩ c hc
    rw [Bool.eq_false_iff, ne_eq, isTailMark_eq_true_iff]
    rintro (rfl | rfl)
    · exact hquery hc
    · exact hfragment hc

theorem unmarked_encode (hquery : '?' ∈ set) (hfragment : '#' ∈ set) (cs : List Char) :
    Unmarked (encode set cs) := by
  rw [unmarked_iff]
  exact ⟨not_mem_encode_of_mem_set hquery (by decide) (by decide),
    not_mem_encode_of_mem_set hfragment (by decide) (by decide)⟩

theorem unmarked_lowered (h : Unmarked cs) : Unmarked (lowered cs) := by
  intro c hc
  obtain ⟨d, hd, rfl⟩ := List.mem_map.1 hc
  rw [Bool.eq_false_iff, ne_eq, isTailMark_eq_true_iff]
  rintro (hmark | hmark)
  · rw [Text.eq_of_toLower_eq hmark (by decide)] at hd
    exact absurd (h _ hd) (by decide)
  · rw [Text.eq_of_toLower_eq hmark (by decide)] at hd
    exact absurd (h _ hd) (by decide)

theorem unmarked_toDigits {base : Nat} (hone : 1 < base) (hbase : base ≤ 16) (n : Nat) :
    Unmarked (Nat.toDigits base n) := by
  have hdigit : ∀ k < 16, isTailMark k.digitChar = false := by decide
  induction n using Nat.strongRecOn with
  | ind n ih =>
    by_cases hn : n < base
    · rw [Nat.toDigits_of_lt_base hn, unmarked_cons]
      exact ⟨hdigit n (by omega), unmarked_nil⟩
    · have hdiv : n / base < n := Nat.div_lt_self (by omega) hone
      have hmod : n % base < base := Nat.mod_lt n (by omega)
      rw [Nat.toDigits_of_base_le hone (by omega), unmarked_append, unmarked_cons]
      exact ⟨ih _ hdiv, hdigit _ (by omega), unmarked_nil⟩

theorem unmarked_toString (n : Nat) : Unmarked (toString n).toList := by
  rw [Nat.toString_eq_repr, Nat.toList_repr]
  exact unmarked_toDigits (by decide) (by decide) n

theorem Ipv4.unmarked_chars (address : Nat) : Unmarked (chars address) := by
  simp only [chars, unmarked_append, unmarked_cons, unmarked_toString, true_and, and_true]
  decide

theorem Ipv6.unmarked_joined (ps : List Nat) : Unmarked (joined ps) := by
  rw [joined, String.toList_intercalate, List.map_map]
  induction ps with
  | nil => exact unmarked_nil
  | cons p ps ih =>
    have hpiece : Unmarked (Nat.toDigits 16 p) := unmarked_toDigits (by decide) (by decide) p
    cases ps with
    | nil => simpa using hpiece
    | cons q qs =>
      rw [List.map_cons] at ih
      rw [List.map_cons, List.map_cons, List.intercalate_cons_cons, unmarked_append,
        unmarked_append]
      refine ⟨⟨?_, ?_⟩, ih⟩
      · simpa using hpiece
      · simp [isTailMark]

theorem Ipv6.unmarked_chars (ps : List Nat) : Unmarked (chars ps) := by
  unfold chars
  split
  · exact unmarked_joined ps
  · simp only [unmarked_append, unmarked_cons, unmarked_joined, and_true, true_and]
    decide

theorem Host.unmarked_ipv6 (ps : List Nat) : Unmarked (ipv6 ps).chars := by
  simp only [chars, List.cons_append, unmarked_append, unmarked_cons, Ipv6.unmarked_chars,
    unmarked_nil, and_true, true_and]
  decide

theorem Host.unmarked_of_map {α : Type} {x : Except Fault α} {f : α → Host} {host : Host}
    (hf : ∀ a, Unmarked (f a).chars) (h : x.map f = .ok host) : Unmarked host.chars := by
  cases x with
  | error e => cases h
  | ok a =>
    cases h
    exact hf a

theorem Host.unmarked_of_bracketed {host : Host} (h : bracketed cs = .ok host) :
    Unmarked host.chars := by
  unfold bracketed at h
  split at h
  · exact unmarked_of_map unmarked_ipv6 h
  · cases h

theorem Host.unmarked_of_parse {host : Host} (h : Host.parse cs = .ok host) :
    Unmarked host.chars := by
  unfold Host.parse at h
  split at h
  · exact unmarked_of_bracketed h
  split at h
  · cases h
  next decoded _ =>
  split at h
  · cases h
  next hallowed =>
  have hdecoded : Unmarked decoded := by
    rw [unmarked_iff]
    refine ⟨fun hc => hallowed ?_, fun hc => hallowed ?_⟩
    · exact List.any_eq_true.2 ⟨'?', hc, by decide⟩
    · exact List.any_eq_true.2 ⟨'#', hc, by decide⟩
  dsimp only at h
  split at h
  · cases h
  split at h
  · exact unmarked_of_map Ipv4.unmarked_chars h
  · cases h
    exact unmarked_lowered hdecoded

theorem Host.unmarked_of_parsePlain {host : Host} (h : Host.parsePlain cs = .ok host) :
    Unmarked host.chars := by
  unfold Host.parsePlain at h
  split at h
  · exact unmarked_of_bracketed h
  split at h
  · cases h
  next hallowed =>
  cases h
  rw [Host.chars, unmarked_iff]
  refine ⟨not_mem_encode (fun hc => hallowed ?_) (by decide) (by decide),
    not_mem_encode (fun hc => hallowed ?_) (by decide) (by decide)⟩
  · exact List.any_eq_true.2 ⟨'?', hc, by decide⟩
  · exact List.any_eq_true.2 ⟨'#', hc, by decide⟩

theorem credentials_unmarked (cs : List Char) :
    Unmarked (credentials cs).user ∧ ∀ p ∈ (credentials cs).password, Unmarked p := by
  have hencode : ∀ ds, Unmarked (encode userSet ds) := unmarked_encode (by decide) (by decide)
  unfold credentials
  split
  · refine ⟨hencode _, ?_⟩
    rintro p ⟨⟩
    exact hencode _
  · refine ⟨hencode _, ?_⟩
    rintro p ⟨⟩

theorem Authority.unmarked_chars {a : Authority} (huser : Unmarked a.user)
    (hpassword : ∀ p ∈ a.password, Unmarked p) (hhost : Unmarked a.host.chars) :
    Unmarked a.chars := by
  have hat : isTailMark '@' = false := by decide
  have hcolon : isTailMark ':' = false := by decide
  have hwho : Unmarked a.userChars := by
    unfold userChars
    split
    · exact unmarked_nil
    · rw [unmarked_append, unmarked_cons]
      exact ⟨huser, hat, unmarked_nil⟩
    · next p hp =>
      rw [unmarked_append, unmarked_append, unmarked_cons, unmarked_cons]
      exact ⟨⟨huser, hcolon, hpassword p hp⟩, hat, unmarked_nil⟩
  rw [chars, unmarked_append, unmarked_append]
  refine ⟨⟨hwho, hhost⟩, ?_⟩
  split
  · exact unmarked_cons.2 ⟨hcolon, unmarked_toString _⟩
  · exact unmarked_nil

theorem bind_eq_ok_iff {α β : Type} {x : Except Fault α} {f : α → Except Fault β} {b : β} :
    x >>= f = .ok b ↔ ∃ a, x = .ok a ∧ f a = .ok b := by
  cases x with
  | error e => simp [bind, Except.bind]
  | ok a => simp [bind, Except.bind]

theorem authorityOf_eq_ok {scheme : List Char} {a : Authority} (h : authorityOf scheme cs = .ok a) :
    (∃ text, Host.parse text = .ok a.host ∨ Host.parsePlain text = .ok a.host) ∧
    (a.user = [] ∧ a.password = none ∨
      ∃ front, a.user = (credentials front).user ∧ a.password = (credentials front).password) := by
  unfold authorityOf at h
  extract_lets family at h
  split at h
  next who rest hread =>
  split at h
  next hostText port _ =>
  split at h
  · cases h
  extract_lets finish at h
  have hhost : ∃ host, (Host.parse hostText = .ok host ∨ Host.parsePlain hostText = .ok host) ∧
      finish host = .ok a := by
    split at h
    · obtain ⟨host, hparse, hhost⟩ := bind_eq_ok_iff.1 h
      exact ⟨host, .inl hparse, hhost⟩
    · obtain ⟨host, hparse, hhost⟩ := bind_eq_ok_iff.1 h
      exact ⟨host, .inr hparse, hhost⟩
  obtain ⟨host, hparse, hfinish⟩ := hhost
  have hport : ∃ found, (if host.isEmpty ∧ (who.user ≠ [] ∨ who.password.isSome) then
      Except.error Fault.emptyHost else .ok ⟨who.user, who.password, host, found⟩) = .ok a := by
    cases port with
    | none => exact ⟨none, hfinish⟩
    | some p =>
      obtain ⟨found, -, hfound⟩ := bind_eq_ok_iff.1 hfinish
      exact ⟨found, hfound⟩
  obtain ⟨found, hfound⟩ := hport
  split at hfound
  · cases hfound
  cases hfound
  refine ⟨⟨hostText, hparse⟩, ?_⟩
  split at hread
  · next front _ _ =>
    cases hread
    exact .inr ⟨front, rfl, rfl⟩
  · cases hread
    exact .inl ⟨rfl, rfl⟩

theorem unmarked_of_authorityOf {scheme : List Char} {a : Authority}
    (h : authorityOf scheme cs = .ok a) : Unmarked a.chars := by
  obtain ⟨⟨text, hhost⟩, hwho⟩ := authorityOf_eq_ok h
  have hchars : Unmarked a.host.chars := by
    rcases hhost with hparse | hplain
    · exact Host.unmarked_of_parse hparse
    · exact Host.unmarked_of_parsePlain hplain
  rcases hwho with ⟨huser, hpassword⟩ | ⟨front, huser, hpassword⟩
  · refine Authority.unmarked_chars (huser ▸ unmarked_nil) ?_ hchars
    rw [hpassword]
    exact fun p hp => absurd hp (Option.not_mem_none p)
  · obtain ⟨hu, hp⟩ := credentials_unmarked front
    exact Authority.unmarked_chars (huser ▸ hu) (hpassword ▸ hp) hchars

/-- What stands behind the last slash before a query or a fragment. -/
def lastSegment (cs : List Char) : List Char :=
  ((cs.takeWhile (!isTailMark ·)).reverse.takeWhile (· ≠ '/')).reverse

theorem lastSegment_eq {front tail : List Char} (hfront : Unmarked front) (hs : Unmarked s)
    (hslash : '/' ∉ s) (htail : ∀ c ∈ tail.head?, isTailMark c = true) :
    lastSegment (front ++ '/' :: s ++ tail) = s := by
  have hhead : Unmarked (front ++ '/' :: s) :=
    unmarked_append.2 ⟨hfront, unmarked_cons.2 ⟨by decide, hs⟩⟩
  have hbefore : (front ++ '/' :: s ++ tail).takeWhile (!isTailMark ·) = front ++ '/' :: s := by
    rw [List.takeWhile_append_of_pos fun c hc => by simp [hhead c hc]]
    cases tail with
    | nil => rw [List.takeWhile_nil, List.append_nil]
    | cons c tail =>
      rw [List.takeWhile_cons_of_neg (by simp [htail c rfl]), List.append_nil]
  have hrest : (s.reverse ++ '/' :: front.reverse).takeWhile (· ≠ '/') = s.reverse := by
    rw [List.takeWhile_append_of_pos, List.takeWhile_cons_of_neg (by simp), List.append_nil]
    intro c hc
    have hne : c ≠ '/' := fun he => hslash (List.mem_reverse.1 (he ▸ hc))
    simpa using hne
  rw [lastSegment, hbefore, List.reverse_append, List.reverse_cons, List.append_assoc,
    List.singleton_append, hrest, List.reverse_reverse]

end ClusterConsole.Url
