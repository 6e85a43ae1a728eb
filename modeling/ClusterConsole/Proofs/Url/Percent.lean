import ClusterConsole.Proofs.Text.AsciiCase
import ClusterConsole.Proofs.Text.Utf8
import ClusterConsole.Url.Path

/-!
# What percent-encoding keeps and hides

A set that has the percent sign encodes without loss, and no other character of the set is left in
what is encoded. So an encoded text has the form of dots only if it was dots before.
-/

namespace ClusterConsole.Url

variable {set : EncodeSet} {c : Char} {cs : List Char}

theorem hexDigit_spec (n : Nat) (hn : n < 16) :
    Text.isHexDigit (Text.hexDigit true n) = true ∧ Text.hexValue (Text.hexDigit true n) = n := by
  revert n
  decide

theorem byteCode_digits (b : UInt8) :
    (Text.isHexDigit (Text.hexDigit true (b.toNat / 16)) = true ∧
      Text.hexValue (Text.hexDigit true (b.toNat / 16)) = b.toNat / 16) ∧
    Text.isHexDigit (Text.hexDigit true (b.toNat % 16)) = true ∧
      Text.hexValue (Text.hexDigit true (b.toNat % 16)) = b.toNat % 16 := by
  have hb : b.toNat < 256 := b.toNat_lt
  exact ⟨hexDigit_spec _ (by omega), hexDigit_spec _ (by omega)⟩

theorem mem_byteCode {b : UInt8} (h : c ∈ byteCode b) : c = '%' ∨ Text.isHexDigit c = true := by
  obtain ⟨⟨hhigh, -⟩, hlow, -⟩ := byteCode_digits b
  simp only [byteCode, List.mem_cons, List.not_mem_nil, or_false] at h
  rcases h with rfl | rfl | rfl
  · exact .inl rfl
  · exact .inr hhigh
  · exact .inr hlow

theorem mem_encode (h : c ∈ encode set cs) :
    c = '%' ∨ Text.isHexDigit c = true ∨ c ∉ set ∧ c ∈ cs := by
  obtain ⟨d, hd, hc⟩ := List.mem_flatMap.1 h
  unfold encodeChar at hc
  split at hc
  · obtain ⟨b, -, hb⟩ := List.mem_flatMap.1 hc
    exact (mem_byteCode hb).imp_right .inl
  · next hplain =>
    rw [List.mem_singleton.1 hc]
    refine .inr (.inr ⟨?_, hd⟩)
    intro hset
    exact hplain (by simp [hset])

theorem not_mem_encode_of_mem_set (hset : c ∈ set) (hpercent : c ≠ '%')
    (hhex : Text.isHexDigit c = false) : c ∉ encode set cs := by
  intro h
  rcases mem_encode h with h | h | ⟨h, -⟩
  · exact hpercent h
  · rw [hhex] at h
    cases h
  · exact h hset

theorem not_mem_encode (hcs : c ∉ cs) (hpercent : c ≠ '%') (hhex : Text.isHexDigit c = false) :
    c ∉ encode set cs := by
  intro h
  rcases mem_encode h with h | h | ⟨-, h⟩
  · exact hpercent h
  · rw [hhex] at h
    cases h
  · exact hcs h

theorem decodeBytes_byteCode (b : UInt8) (rest : List Char) :
    decodeBytes (byteCode b ++ rest) = b :: decodeBytes rest := by
  obtain ⟨⟨hhigh, hhigh'⟩, hlow, hlow'⟩ := byteCode_digits b
  have hbyte : (16 * (b.toNat / 16) + b.toNat % 16).toUInt8 = b := by
    rw [Nat.div_add_mod]
    exact UInt8.ofNat_toNat
  rw [byteCode, List.cons_append, List.cons_append, List.cons_append, List.nil_append, decodeBytes,
    hhigh, hlow, hhigh', hlow', hbyte]
  rfl

theorem decodeBytes_byteCodes (bs : List UInt8) (rest : List Char) :
    decodeBytes (bs.flatMap byteCode ++ rest) = bs ++ decodeBytes rest := by
  induction bs with
  | nil => rfl
  | cons b bs ih =>
    rw [List.flatMap_cons, List.append_assoc, decodeBytes_byteCode, ih, List.cons_append]

theorem decodeBytes_cons (h : c ≠ '%') (rest : List Char) :
    decodeBytes (c :: rest) = String.utf8EncodeChar c ++ decodeBytes rest := by
  rw [decodeBytes.eq_def]
  split
  · next heq => exact absurd (List.cons.inj heq).1 h
  · next heq =>
    obtain ⟨rfl, rfl⟩ := List.cons.inj heq
    rfl
  · next heq => cases heq

theorem decodeBytes_encode (hset : '%' ∈ set) (cs : List Char) :
    decodeBytes (encode set cs) = Text.utf8Bytes cs := by
  induction cs with
  | nil => rfl
  | cons c cs ih =>
    have hsplit : encode set (c :: cs) = encodeChar set c ++ encode set cs := List.flatMap_cons
    have hbytes : Text.utf8Bytes (c :: cs) = String.utf8EncodeChar c ++ Text.utf8Bytes cs :=
      List.flatMap_cons
    rw [hsplit, hbytes, ← ih, encodeChar]
    split
    · exact decodeBytes_byteCodes _ _
    · next hplain =>
      refine decodeBytes_cons ?_ _
      rintro rfl
      exact hplain (by simp [hset])

theorem decode?_encode (hset : '%' ∈ set) (cs : List Char) :
    decode? (encode set cs) = some cs := by
  rw [decode?, decodeBytes_encode hset, Text.utf8?_utf8Bytes]

theorem encode_injective (hset : '%' ∈ set) : Function.Injective (encode set) := by
  intro cs ds h
  have hdecode := congrArg decode? h
  rw [decode?_encode hset, decode?_encode hset] at hdecode
  exact Option.some.inj hdecode

theorem utf8Bytes_injective {cs ds : List Char} (h : Text.utf8Bytes cs = Text.utf8Bytes ds) :
    cs = ds := by
  refine String.ofList_injective (String.toByteArray_inj.1 ?_)
  rw [String.toByteArray_ofList, String.toByteArray_ofList]
  exact List.toByteArray_inj.2 h

theorem eq_of_toLower_eq_e (h : c.toLower = 'e') : c = 'e' ∨ c = 'E' := by
  have hnat := Text.toNat_toLower c
  rw [h] at hnat
  have he : 'e'.toNat = 101 := rfl
  have hE : 'E'.toNat = 69 := rfl
  split at hnat
  · refine .inr (Char.toNat_inj.1 ?_)
    omega
  · exact .inl (Char.toNat_inj.1 hnat.symm)

theorem decodeBytes_of_dot {more : List Char} (h : lowered cs = '.' :: more) :
    ∃ rest, lowered rest = more ∧ decodeBytes cs = 0x2E :: decodeBytes rest := by
  obtain ⟨a, rest, rfl, ha, hrest⟩ := List.map_eq_cons_iff.1 h
  obtain rfl := Text.eq_of_toLower_eq ha (by decide)
  exact ⟨rest, hrest, decodeBytes_cons (by decide) rest⟩

theorem decodeBytes_of_dotCode {more : List Char} (h : lowered cs = '%' :: '2' :: 'e' :: more) :
    ∃ rest, lowered rest = more ∧ decodeBytes cs = 0x2E :: decodeBytes rest := by
  obtain ⟨a, as, rfl, ha, has⟩ := List.map_eq_cons_iff.1 h
  obtain ⟨b, bs, rfl, hb, hbs⟩ := List.map_eq_cons_iff.1 has
  obtain ⟨c, rest, rfl, hc, hrest⟩ := List.map_eq_cons_iff.1 hbs
  obtain rfl := Text.eq_of_toLower_eq ha (by decide)
  obtain rfl := Text.eq_of_toLower_eq hb (by decide)
  obtain rfl | rfl := eq_of_toLower_eq_e hc <;> exact ⟨rest, hrest, rfl⟩

theorem decodeBytes_of_lowered_nil (h : lowered cs = []) : decodeBytes cs = [] := by
  rw [List.map_eq_nil_iff.1 h]
  rfl

theorem decodeBytes_of_isSingleDot (h : isSingleDot cs = true) : decodeBytes cs = [0x2E] := by
  simp only [isSingleDot, Bool.or_eq_true, beq_iff_eq] at h
  rcases h with rfl | h
  · rfl
  · obtain ⟨rest, hrest, hdecode⟩ := decodeBytes_of_dotCode h
    rw [hdecode, decodeBytes_of_lowered_nil hrest]

theorem decodeBytes_of_isDoubleDot (h : isDoubleDot cs = true) :
    decodeBytes cs = [0x2E, 0x2E] := by
  simp only [isDoubleDot, Bool.or_eq_true, beq_iff_eq] at h
  rcases h with ((rfl | h) | h) | h
  · rfl
  · obtain ⟨tail, htail, hdecode⟩ := decodeBytes_of_dot h
    obtain ⟨rest, hrest, hdecode'⟩ := decodeBytes_of_dotCode htail
    rw [hdecode, hdecode', decodeBytes_of_lowered_nil hrest]
  · obtain ⟨tail, htail, hdecode⟩ := decodeBytes_of_dotCode h
    obtain ⟨rest, hrest, hdecode'⟩ := decodeBytes_of_dot htail
    rw [hdecode, hdecode', decodeBytes_of_lowered_nil hrest]
  · obtain ⟨tail, htail, hdecode⟩ := decodeBytes_of_dotCode h
    obtain ⟨rest, hrest, hdecode'⟩ := decodeBytes_of_dotCode htail
    rw [hdecode, hdecode', decodeBytes_of_lowered_nil hrest]

theorem isSingleDot_encode (hpercent : '%' ∈ set) (hdot : '.' ∉ set) (cs : List Char) :
    isSingleDot (encode set cs) = true ↔ cs = ['.'] := by
  refine ⟨?_, ?_⟩
  · intro h
    have hbytes := decodeBytes_of_isSingleDot h
    rw [decodeBytes_encode hpercent] at hbytes
    exact utf8Bytes_injective hbytes
  · rintro rfl
    simp [encode, encodeChar, isSingleDot, isControl, hdot]

theorem isDoubleDot_encode (hpercent : '%' ∈ set) (hdot : '.' ∉ set) (cs : List Char) :
    isDoubleDot (encode set cs) = true ↔ cs = ['.', '.'] := by
  refine ⟨?_, ?_⟩
  · intro h
    have hbytes := decodeBytes_of_isDoubleDot h
    rw [decodeBytes_encode hpercent] at hbytes
    exact utf8Bytes_injective hbytes
  · rintro rfl
    simp [encode, encodeChar, isDoubleDot, isControl, hdot]

end ClusterConsole.Url
