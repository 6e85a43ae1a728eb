import ClusterConsole.Text.Utf8

/-!
# Text is read back from its bytes

The bytes of a character are read as this character wherever they stand, so that the bytes of a text
are read as the text.
-/

namespace ClusterConsole.Text

variable {bits lacking k v : Nat} {low high b : UInt8} {bs : List UInt8}

theorem toNat_byte {n : Nat} (h : n < 256) : (UInt8.ofNat n).toNat = n :=
  UInt8.toNat_ofNat_of_lt' h

theorem lossyFrom_begun {q : Begun} (h : begin? b = some (.inr q)) :
    lossyFrom none (b :: bs) = lossyFrom (some q) bs := by
  rw [lossyFrom, h]

theorem lossyFrom_within (hlow : low.toNat ≤ k % 64 + 128) (hhigh : k % 64 + 128 ≤ high.toNat) :
    lossyFrom (some ⟨lacking, bits, low, high⟩) (UInt8.ofNat (k % 64 + 128) :: bs) =
      if lacking = 1 then Char.ofNat (bits * 64 + k % 64) :: lossyFrom none bs
      else lossyFrom (some ⟨lacking - 1, bits * 64 + k % 64, 0x80, 0xBF⟩) bs := by
  have hbyte : (UInt8.ofNat (k % 64 + 128)).toNat = k % 64 + 128 := toNat_byte (by omega)
  have hrange : (low ≤ UInt8.ofNat (k % 64 + 128) && UInt8.ofNat (k % 64 + 128) ≤ high) = true := by
    simp only [UInt8.le_iff_toNat_le, hbyte, hlow, hhigh, decide_true, Bool.and_true]
  have hbits : (k % 64 + 128) % 64 = k % 64 := by omega
  rw [lossyFrom, if_pos hrange, hbyte, hbits]

theorem lossyFrom_tail (lacking bits k : Nat) (bs : List UInt8) :
    lossyFrom (some ⟨lacking, bits, 0x80, 0xBF⟩) (UInt8.ofNat (k % 64 + 128) :: bs) =
      if lacking = 1 then Char.ofNat (bits * 64 + k % 64) :: lossyFrom none bs
      else lossyFrom (some ⟨lacking - 1, bits * 64 + k % 64, 0x80, 0xBF⟩) bs := by
  apply lossyFrom_within
  · simp
  · simp only [UInt8.reduceToNat]
    omega

theorem begin?_one (h : v ≤ 0x7F) : begin? (UInt8.ofNat v) = some (.inl (Char.ofNat v)) := by
  rw [begin?, toNat_byte (by omega)]
  exact if_pos (by omega)

theorem begin?_two (hlow : 0x7F < v) (hhigh : v ≤ 0x7FF) :
    begin? (UInt8.ofNat (v / 64 % 32 + 192)) = some (.inr ⟨1, v / 64, 0x80, 0xBF⟩) := by
  have hbits : (v / 64 % 32 + 192) % 32 = v / 64 := by omega
  rw [begin?, toNat_byte (by omega)]
  simp only [hbits]
  rw [if_neg (by omega), if_neg (by omega), if_pos (by omega)]

/-- The second of three bytes is in the range that the first one leaves it: no character is written
longer than it need be, and none is a surrogate. -/
theorem begin?_three (hlow : 0x7FF < v) (hhigh : v ≤ 0xFFFF) (hvalid : v < 0xD800 ∨ 0xDFFF < v) :
    ∃ low high, begin? (UInt8.ofNat (v / 4096 % 16 + 224)) =
        some (.inr ⟨2, v / 4096, low, high⟩) ∧
      low.toNat ≤ v / 64 % 64 + 128 ∧ v / 64 % 64 + 128 ≤ high.toNat := by
  have hbits : (v / 4096 % 16 + 224) % 16 = v / 4096 := by omega
  rw [begin?, toNat_byte (by omega)]
  simp only [hbits]
  rw [if_neg (by omega), if_neg (by omega), if_neg (by omega)]
  by_cases hfirst : v / 4096 % 16 + 224 = 0xE0
  · rw [if_pos hfirst]
    refine ⟨0xA0, 0xBF, rfl, ?_⟩
    simp only [UInt8.reduceToNat]
    omega
  rw [if_neg hfirst]
  by_cases hsurrogate : v / 4096 % 16 + 224 = 0xED
  · rw [if_pos hsurrogate]
    refine ⟨0x80, 0x9F, rfl, ?_⟩
    simp only [UInt8.reduceToNat]
    omega
  · rw [if_neg hsurrogate, if_pos (by omega)]
    refine ⟨0x80, 0xBF, rfl, ?_⟩
    simp only [UInt8.reduceToNat]
    omega

theorem begin?_four (hlow : 0xFFFF < v) (hhigh : v < 0x110000) :
    ∃ low high, begin? (UInt8.ofNat (v / 262144 % 8 + 240)) =
        some (.inr ⟨3, v / 262144, low, high⟩) ∧
      low.toNat ≤ v / 4096 % 64 + 128 ∧ v / 4096 % 64 + 128 ≤ high.toNat := by
  have hbits : (v / 262144 % 8 + 240) % 8 = v / 262144 := by omega
  rw [begin?, toNat_byte (by omega)]
  simp only [hbits]
  rw [if_neg (by omega), if_neg (by omega), if_neg (by omega), if_neg (by omega),
    if_neg (by omega), if_neg (by omega)]
  by_cases hfirst : v / 262144 % 8 + 240 = 0xF0
  · rw [if_pos hfirst]
    refine ⟨0x90, 0xBF, rfl, ?_⟩
    simp only [UInt8.reduceToNat]
    omega
  rw [if_neg hfirst]
  by_cases hinner : v / 262144 % 8 + 240 ≤ 0xF3
  · rw [if_pos hinner]
    refine ⟨0x80, 0xBF, rfl, ?_⟩
    simp only [UInt8.reduceToNat]
    omega
  · rw [if_neg hinner, if_pos (by omega)]
    refine ⟨0x80, 0x8F, rfl, ?_⟩
    simp only [UInt8.reduceToNat]
    omega

theorem lossyFrom_utf8EncodeChar (c : Char) (bs : List UInt8) :
    lossyFrom none (String.utf8EncodeChar c ++ bs) = c :: lossyFrom none bs := by
  have hvalid : c.toNat < 0xD800 ∨ 0xDFFF < c.toNat ∧ c.toNat < 0x110000 := c.valid
  have hchar : Char.ofNat c.toNat = c := Char.ofNat_toNat c
  have hval : c.val.toNat = c.toNat := rfl
  rw [String.utf8EncodeChar]
  simp only [hval]
  generalize c.toNat = v at hvalid hchar
  split
  · next hone => rw [List.singleton_append, lossyFrom, begin?_one hone, hchar]
  next hone =>
  split
  · next htwo =>
    have hbits : v / 64 * 64 + v % 64 = v := by omega
    rw [List.cons_append, List.singleton_append, lossyFrom_begun (begin?_two (by omega) htwo),
      lossyFrom_tail, if_pos rfl, hbits, hchar]
  next htwo =>
  split
  · next hthree =>
    obtain ⟨low, high, hbegin, hlow, hhigh⟩ := begin?_three (by omega) hthree (by omega)
    have hbits : (v / 4096 * 64 + v / 64 % 64) * 64 + v % 64 = v := by omega
    rw [List.cons_append, List.cons_append, List.singleton_append, lossyFrom_begun hbegin,
      lossyFrom_within hlow hhigh, if_neg (by decide), lossyFrom_tail, if_pos rfl, hbits, hchar]
  · next hthree =>
    obtain ⟨low, high, hbegin, hlow, hhigh⟩ := begin?_four (v := v) (by omega) (by omega)
    have hbits : ((v / 262144 * 64 + v / 4096 % 64) * 64 + v / 64 % 64) * 64 + v % 64 = v := by
      omega
    rw [List.cons_append, List.cons_append, List.cons_append, List.singleton_append,
      lossyFrom_begun hbegin, lossyFrom_within hlow hhigh, if_neg (by decide), lossyFrom_tail,
      if_neg (by decide), lossyFrom_tail, if_pos rfl, hbits, hchar]

theorem utf8Lossy_utf8Bytes (cs : List Char) : utf8Lossy (utf8Bytes cs) = cs := by
  induction cs with
  | nil => rfl
  | cons c cs ih =>
    have hsplit : utf8Bytes (c :: cs) = String.utf8EncodeChar c ++ utf8Bytes cs := List.flatMap_cons
    rw [utf8Lossy, hsplit, lossyFrom_utf8EncodeChar]
    exact congrArg (c :: ·) ih

theorem utf8?_utf8Bytes (cs : List Char) : utf8? (utf8Bytes cs) = some cs := by
  rw [utf8?, utf8Lossy_utf8Bytes]
  exact if_pos rfl

end ClusterConsole.Text
