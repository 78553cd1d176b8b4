-- Texts are read back from their octets, and from their percent-encoded form. No octet of a
-- character beyond ASCII can be taken for an ASCII character, so what looks for one of these
-- in the octets of a text finds it where it stands in the text.
import HttpCalls.Text.Percent

namespace HttpCalls

/-! ## Octets of a character -/

namespace Utf8

@[simp]
theorem encode_nil : encode [] = [] := rfl

theorem encode_cons (c : Char) (text : List Char) :
    encode (c :: text) = String.utf8EncodeChar c ++ encode text := rfl

theorem encode_append (a b : List Char) : encode (a ++ b) = encode a ++ encode b :=
  List.flatMap_append

theorem encodeChar_ascii {c : Char} (h : c.toNat < 0x80) :
    String.utf8EncodeChar c = [UInt8.ofNat c.toNat] := by
  have hv : c.val.toNat ≤ 127 := Nat.le_of_lt_succ h
  unfold String.utf8EncodeChar
  simp only [hv, if_true]
  rfl

/-- Characters beyond ASCII have no octet of ASCII. -/
theorem encodeChar_wide {c : Char} (h : 0x80 ≤ c.toNat) :
    ∀ b ∈ String.utf8EncodeChar c, 0x80 ≤ b := by
  have hv : ¬c.val.toNat ≤ 127 := Nat.not_le.mpr h
  intro b hb
  unfold String.utf8EncodeChar at hb
  simp only [hv, if_false] at hb
  have hbound : 0x80 ≤ b.toNat := by
    split at hb
    · simp only [List.mem_cons, List.not_mem_nil, or_false] at hb
      rcases hb with rfl | rfl <;> rw [UInt8.toNat_ofNat'] <;> omega
    · split at hb
      · simp only [List.mem_cons, List.not_mem_nil, or_false] at hb
        rcases hb with rfl | rfl | rfl <;> rw [UInt8.toNat_ofNat'] <;> omega
      · simp only [List.mem_cons, List.not_mem_nil, or_false] at hb
        rcases hb with rfl | rfl | rfl | rfl <;> rw [UInt8.toNat_ofNat'] <;> omega
  exact UInt8.le_iff_toNat_le.mpr hbound

/-- An octet of ASCII is the number of its character. -/
theorem toNat_of_mem_encodeChar {c : Char} {b : UInt8} (hb : b ∈ String.utf8EncodeChar c)
    (h : b < 0x80) : c.toNat = b.toNat := by
  by_cases hascii : c.toNat < 0x80
  · rw [encodeChar_ascii hascii, List.mem_singleton] at hb
    rw [hb, UInt8.toNat_ofNat']
    omega
  · have hwide := encodeChar_wide (Nat.le_of_not_lt hascii) b hb
    exact absurd h (UInt8.not_lt.mpr hwide)

theorem notMem_encodeChar {c d : Char} (hd : d.toNat < 0x80) (h : c ≠ d) :
    UInt8.ofNat d.toNat ∉ String.utf8EncodeChar c := by
  intro hmem
  have hn : (UInt8.ofNat d.toNat).toNat = d.toNat := by
    rw [UInt8.toNat_ofNat']
    omega
  have hc := toNat_of_mem_encodeChar hmem (UInt8.lt_iff_toNat_lt.mpr (by rw [hn]; exact hd))
  exact h (Char.toNat_inj.mp (hc.trans hn))

/-! ## Reading a character -/

/-- What a first octet says, read off its number. -/
theorem opening_ofNat {n : Nat} (h : n < 256) :
    opening (UInt8.ofNat n) =
      if n < 0x80 then some (0, 0x80, 0xBF, n)
      else if 0xC2 ≤ n ∧ n ≤ 0xDF then some (1, 0x80, 0xBF, n - 0xC0)
      else if n = 0xE0 then some (2, 0xA0, 0xBF, 0)
      else if n = 0xED then some (2, 0x80, 0x9F, 0xD)
      else if 0xE1 ≤ n ∧ n ≤ 0xEF then some (2, 0x80, 0xBF, n - 0xE0)
      else if n = 0xF0 then some (3, 0x90, 0xBF, 0)
      else if 0xF1 ≤ n ∧ n ≤ 0xF3 then some (3, 0x80, 0xBF, n - 0xF0)
      else if n = 0xF4 then some (3, 0x80, 0x8F, 4)
      else none := by
  revert n
  decide +kernel

theorem continued_ofNat {owed code n : Nat} {low high : UInt8} {rest : Bytes}
    (hlow : low.toNat ≤ n) (hhigh : n ≤ high.toNat) :
    continued (owed + 1) low high code (UInt8.ofNat n :: rest) =
      continued owed 0x80 0xBF (code * 64 + (n - 0x80)) rest := by
  have hn : (UInt8.ofNat n).toNat = n := by
    have hlt := high.toNat_lt
    rw [UInt8.toNat_ofNat']
    omega
  have hbetween : low ≤ UInt8.ofNat n ∧ UInt8.ofNat n ≤ high := by
    rw [UInt8.le_iff_toNat_le, UInt8.le_iff_toNat_le, hn]
    exact ⟨hlow, hhigh⟩
  rw [continued, if_pos hbetween, hn]

-- The first octet of three or four bounds the second one more narrowly at the two ends of
-- its range: there lie the spellings that are too long and the numbers that name no character.
theorem opening_three {n : Nat} (hlow : 0x800 ≤ n) (hhigh : n < 0xD800 ∨ (0xDFFF < n ∧ n < 0x10000)) :
    ∃ low high, opening (UInt8.ofNat (n / 4096 % 16 + 224)) = some (2, low, high, n / 4096) ∧
      low.toNat ≤ n / 64 % 64 + 128 ∧ n / 64 % 64 + 128 ≤ high.toNat := by
  rw [opening_ofNat (by omega), if_neg (by omega), if_neg (by omega)]
  by_cases hfirst : n / 4096 = 0
  · rw [if_pos (by omega), hfirst]
    have hbounds : 0xA0 ≤ n / 64 % 64 + 128 ∧ n / 64 % 64 + 128 ≤ 0xBF := by omega
    exact ⟨0xA0, 0xBF, rfl, hbounds⟩
  rw [if_neg (by omega)]
  by_cases hsurrogate : n / 4096 = 13
  · rw [if_pos (by omega), hsurrogate]
    have hbounds : 0x80 ≤ n / 64 % 64 + 128 ∧ n / 64 % 64 + 128 ≤ 0x9F := by omega
    exact ⟨0x80, 0x9F, rfl, hbounds⟩
  rw [if_neg (by omega), if_pos (by omega)]
  have hcode : n / 4096 % 16 + 224 - 0xE0 = n / 4096 := by omega
  rw [hcode]
  have hbounds : 0x80 ≤ n / 64 % 64 + 128 ∧ n / 64 % 64 + 128 ≤ 0xBF := by omega
  exact ⟨0x80, 0xBF, rfl, hbounds⟩

theorem opening_four {n : Nat} (hlow : 0x10000 ≤ n) (hhigh : n < 0x110000) :
    ∃ low high, opening (UInt8.ofNat (n / 262144 % 8 + 240)) = some (3, low, high, n / 262144) ∧
      low.toNat ≤ n / 4096 % 64 + 128 ∧ n / 4096 % 64 + 128 ≤ high.toNat := by
  rw [opening_ofNat (by omega), if_neg (by omega), if_neg (by omega), if_neg (by omega),
    if_neg (by omega), if_neg (by omega)]
  by_cases hfirst : n / 262144 = 0
  · rw [if_pos (by omega), hfirst]
    have hbounds : 0x90 ≤ n / 4096 % 64 + 128 ∧ n / 4096 % 64 + 128 ≤ 0xBF := by omega
    exact ⟨0x90, 0xBF, rfl, hbounds⟩
  rw [if_neg (by omega)]
  by_cases hlast : n / 262144 = 4
  · rw [if_neg (by omega), if_pos (by omega), hlast]
    have hbounds : 0x80 ≤ n / 4096 % 64 + 128 ∧ n / 4096 % 64 + 128 ≤ 0x8F := by omega
    exact ⟨0x80, 0x8F, rfl, hbounds⟩
  rw [if_pos (by omega)]
  have hcode : n / 262144 % 8 + 240 - 0xF0 = n / 262144 := by omega
  rw [hcode]
  have hbounds : 0x80 ≤ n / 4096 % 64 + 128 ∧ n / 4096 % 64 + 128 ≤ 0xBF := by omega
  exact ⟨0x80, 0xBF, rfl, hbounds⟩

theorem head_encodeChar (c : Char) (rest : Bytes) :
    head (String.utf8EncodeChar c ++ rest) = .char c rest := by
  have hvalid : c.toNat < 0xD800 ∨ (0xDFFF < c.toNat ∧ c.toNat < 0x110000) := c.valid
  have hc : ∀ code, code = c.toNat → Head.char (Char.ofNat code) rest = .char c rest := by
    rintro code rfl
    rw [Char.ofNat_toNat]
  generalize hn : c.toNat = n at hvalid hc
  have hv : c.val.toNat = n := hn
  have hbytes : (0x80 : UInt8).toNat = 128 ∧ (0xBF : UInt8).toNat = 191 := ⟨rfl, rfl⟩
  unfold String.utf8EncodeChar
  simp only [hv]
  -- one case for each number of octets
  by_cases h1 : n ≤ 127
  · rw [if_pos h1, List.cons_append, head, opening_ofNat (by omega), if_pos (by omega)]
    exact hc n rfl
  rw [if_neg h1]
  by_cases h2 : n ≤ 2047
  · rw [if_pos h2, List.cons_append, head, opening_ofNat (by omega), if_neg (by omega),
      if_pos (by omega)]
    simp only [List.cons_append]
    rw [continued_ofNat (by omega) (by omega)]
    apply hc
    omega
  rw [if_neg h2]
  by_cases h3 : n ≤ 65535
  · obtain ⟨low, high, hopening, hlow, hhigh⟩ := opening_three (n := n) (by omega) (by omega)
    rw [if_pos h3, List.cons_append, head, hopening]
    simp only [List.cons_append]
    rw [continued_ofNat hlow hhigh, continued_ofNat (by omega) (by omega)]
    apply hc
    omega
  · obtain ⟨low, high, hopening, hlow, hhigh⟩ := opening_four (n := n) (by omega) (by omega)
    rw [if_neg h3, List.cons_append, head, hopening]
    simp only [List.cons_append]
    rw [continued_ofNat hlow hhigh, continued_ofNat (by omega) (by omega),
      continued_ofNat (by omega) (by omega)]
    apply hc
    omega

/-- A text is read back from its octets. -/
theorem decode?_encode (text : List Char) : decode? (encode text) = some text := by
  induction text with
  | nil =>
    rw [decode?]
    rfl
  | cons c rest ih =>
    rw [encode_cons, decode?]
    split
    · rename_i h
      rw [head_encodeChar] at h
      cases h
    · rename_i h
      rw [head_encodeChar] at h
      cases h
      rw [ih]
      rfl
    · rename_i h
      rw [head_encodeChar] at h
      cases h

end Utf8

/-! ## Percent encoding -/

namespace Percent

theorem encode_cons (keep : Char → Bool) (c : Char) (rest : List Char) :
    encode keep (c :: rest) = (if keep c then [c] else escaped c) ++ encode keep rest :=
  List.flatMap_cons

theorem value?_upper {n : Nat} (h : n < 16) : Hex.value? (Hex.upper n) = some n := by
  revert n
  decide

theorem upper_ascii {n : Nat} (h : n < 16) : (Hex.upper n).toNat < 0x80 := by
  revert n
  decide

theorem percent_notMem_encodeChar {c : Char} (h : c ≠ '%') : 0x25 ∉ String.utf8EncodeChar c :=
  Utf8.notMem_encodeChar (by decide) h

theorem decode_append {bs : Bytes} (h : 0x25 ∉ bs) (rest : Bytes) :
    decode (bs ++ rest) = bs ++ decode rest := by
  induction bs with
  | nil => rfl
  | cons b more ih =>
    rw [List.mem_cons, not_or] at h
    rw [List.cons_append, decode]
    · rw [ih h.2]
      rfl
    · intro _ _ _ hb
      exact absurd hb.symm h.1

theorem decode_triplet (b : UInt8) (rest : Bytes) :
    decode (Utf8.encode (triplet b) ++ rest) = b :: decode rest := by
  have hb : b.toNat < 256 := b.toNat_lt
  have hdigit : ∀ n, n < 16 → String.utf8EncodeChar (Hex.upper n) = [UInt8.ofNat (Hex.upper n).toNat] ∧
      Hex.value? (Char.ofNat (UInt8.ofNat (Hex.upper n).toNat).toNat) = some n := by
    intro n hn
    have hascii := upper_ascii hn
    refine ⟨Utf8.encodeChar_ascii hascii, ?_⟩
    rw [UInt8.toNat_ofNat', Nat.mod_eq_of_lt (by omega), Char.ofNat_toNat, value?_upper hn]
  obtain ⟨hhigh, hhigh?⟩ := hdigit (b.toNat / 16) (by omega)
  obtain ⟨hlow, hlow?⟩ := hdigit (b.toNat % 16) (by omega)
  have htext : Utf8.encode (triplet b) = [0x25, UInt8.ofNat (Hex.upper (b.toNat / 16)).toNat,
      UInt8.ofNat (Hex.upper (b.toNat % 16)).toNat] := by
    rw [triplet, Utf8.encode_cons, Utf8.encode_cons, Utf8.encode_cons, hhigh, hlow]
    rfl
  rw [htext]
  simp only [List.cons_append, List.nil_append]
  rw [decode, hhigh?, hlow?]
  have hvalue : b.toNat / 16 * 16 + b.toNat % 16 = b.toNat := by omega
  simp only [hvalue, UInt8.ofNat_toNat]

theorem decode_escaped (c : Char) (rest : Bytes) :
    decode (Utf8.encode (escaped c) ++ rest) = String.utf8EncodeChar c ++ decode rest := by
  unfold escaped
  induction String.utf8EncodeChar c with
  | nil => rfl
  | cons b more ih =>
    rw [List.flatMap_cons, Utf8.encode_append, List.append_assoc, decode_triplet, ih]
    rfl

theorem decode_encode_append {keep : Char → Bool} (h : keep '%' = false) (text : List Char)
    (rest : Bytes) : decode (Utf8.encode (encode keep text) ++ rest) = Utf8.encode text ++ decode rest := by
  induction text with
  | nil => rfl
  | cons c more ih =>
    rw [encode_cons, Utf8.encode_append, List.append_assoc, Utf8.encode_cons, List.append_assoc, ← ih]
    split
    · rename_i hkeep
      have hc : c ≠ '%' := by
        rintro rfl
        rw [h] at hkeep
        cases hkeep
      rw [Utf8.encode_cons, Utf8.encode_nil, List.append_nil, decode_append (percent_notMem_encodeChar hc)]
    · exact decode_escaped c _

/-- A text is read back from its percent-encoded form, unless percent signs are kept as they are. -/
theorem decode_encode {keep : Char → Bool} (h : keep '%' = false) (text : List Char) :
    decode (Utf8.encode (encode keep text)) = Utf8.encode text := by
  have hall := decode_encode_append h text []
  simpa [decode] using hall

/-- A text without a percent sign stands for itself. -/
theorem decode_plain {text : List Char} (h : '%' ∉ text) : decode (Utf8.encode text) = Utf8.encode text := by
  induction text with
  | nil => rfl
  | cons c more ih =>
    rw [List.mem_cons, not_or] at h
    rw [Utf8.encode_cons, decode_append (percent_notMem_encodeChar (Ne.symm h.1)), ih h.2]

end Percent

end HttpCalls
