-- What the reader makes of a written string and of a written whole number. A string ends at
-- its quote; a number ends where an octet follows that can not belong to one.
import HttpCalls.Json.Reader
import HttpCalls.Json.Writer
import HttpCalls.Proofs.Text.Spelling

namespace HttpCalls.Json.Reader

/-! ## Strings -/

theorem stringBody_plain {bs s out rest : Bytes}
    (h : ∀ b ∈ bs, b ≠ 0x22 ∧ b ≠ 0x5C ∧ ¬b < 0x20) (hs : stringBody s = .ok (out, rest)) :
    stringBody (bs ++ s) = .ok (bs ++ out, rest) := by
  induction bs with
  | nil => exact hs
  | cons b more ih =>
    obtain ⟨hquote, hbackslash, hcontrol⟩ := h b List.mem_cons_self
    have hmore := ih fun c hc => h c (List.mem_cons_of_mem _ hc)
    rw [List.cons_append, stringBody, if_neg hquote, if_neg hbackslash, if_neg hcontrol, hmore]
    rfl

theorem stringBody_escape {e s out rest : Bytes} {c : Bytes} (he : escape (e ++ s) = .ok (c, s))
    (hs : stringBody s = .ok (out, rest)) :
    stringBody (0x5C :: e ++ s) = .ok (c ++ out, rest) := by
  rw [List.cons_append, stringBody, if_neg (by decide), if_pos rfl]
  split
  · rename_i heq
    rw [he] at heq
    cases heq
  · rename_i heq
    rw [he] at heq
    cases heq
    rw [hs]

theorem hexValue?_lower {n : Nat} (h : n < 16) :
    Utf8.encode [Hex.lower n] = [UInt8.ofNat (Hex.lower n).toNat] ∧
      hexValue? (UInt8.ofNat (Hex.lower n).toNat) = some n := by
  revert n
  decide

/-- A control character is written with the four digits of its number. -/
theorem escape_control {c : Char} (h : c.toNat < 0x20) (s : Bytes) :
    escape (Utf8.encode ['u', '0', '0', Hex.lower (c.toNat / 16), Hex.lower (c.toNat % 16)] ++ s) =
      .ok (String.utf8EncodeChar c, s) := by
  obtain ⟨hhigh, hhigh?⟩ := hexValue?_lower (n := c.toNat / 16) (by omega)
  obtain ⟨hlow, hlow?⟩ := hexValue?_lower (n := c.toNat % 16) (by omega)
  have htext : Utf8.encode ['u', '0', '0', Hex.lower (c.toNat / 16), Hex.lower (c.toNat % 16)] =
      [0x75, 0x30, 0x30, UInt8.ofNat (Hex.lower (c.toNat / 16)).toNat,
        UInt8.ofNat (Hex.lower (c.toNat % 16)).toNat] := by
    have hsplit := Utf8.encode_append ['u', '0', '0', Hex.lower (c.toNat / 16)] [Hex.lower (c.toNat % 16)]
    have hsplit' := Utf8.encode_append ['u', '0', '0'] [Hex.lower (c.toNat / 16)]
    rw [hhigh] at hsplit'
    simp only [List.cons_append, List.nil_append] at hsplit hsplit'
    rw [hsplit, hsplit', hlow]
    rfl
  have hvalue : ((0 * 16 + 0) * 16 + c.toNat / 16) * 16 + c.toNat % 16 = c.toNat := by omega
  have hzero : hexValue? 0x30 = some 0 := by decide
  have hshort : shortEscape? 0x75 = none := by decide
  rw [htext]
  simp only [List.cons_append, List.nil_append, escape, hshort, unicodeEscape, hexUnit, hzero, hhigh?,
    hlow?, hvalue, if_true]
  rw [if_neg (by omega), if_pos (by omega)]
  simp only [Char.ofNat_toNat]

theorem stringBody_writeChar (c : Char) {s out rest : Bytes} (hs : stringBody s = .ok (out, rest)) :
    stringBody (Utf8.encode (writeChar c) ++ s) = .ok (String.utf8EncodeChar c ++ out, rest) := by
  unfold writeChar
  split
  all_goals try exact stringBody_escape rfl hs
  rename_i c hquote hbackslash _ _ _ _ _
  split
  · rename_i hcontrol
    exact stringBody_escape (escape_control hcontrol s) hs
  · rename_i hcontrol
    rw [Utf8.encode_cons, Utf8.encode_nil, List.append_nil]
    apply stringBody_plain _ hs
    intro b hb
    refine ⟨?_, ?_, ?_⟩
    · rintro rfl
      exact Utf8.notMem_encodeChar (by decide) hquote hb
    · rintro rfl
      exact Utf8.notMem_encodeChar (by decide) hbackslash hb
    · intro hlow
      have hnumber := Utf8.toNat_of_mem_encodeChar hb (UInt8.lt_trans hlow (by decide))
      have hsmall : b.toNat < 0x20 := UInt8.lt_iff_toNat_lt.mp hlow
      omega

theorem stringBody_written (text : List Char) (rest : Bytes) :
    stringBody (Utf8.encode (text.flatMap writeChar) ++ 0x22 :: rest) = .ok (Utf8.encode text, rest) := by
  induction text with
  | nil => rw [List.flatMap_nil, Utf8.encode_nil, List.nil_append, stringBody, if_pos rfl]
  | cons c more ih =>
    rw [List.flatMap_cons, Utf8.encode_append, List.append_assoc, Utf8.encode_cons]
    exact stringBody_writeChar c ih

/-- A written string is read up to its quote. -/
theorem stringText_written (s : String) (rest : Bytes) :
    stringText (Utf8.encode (s.toList.flatMap writeChar) ++ 0x22 :: rest) = .ok (s, rest) := by
  unfold stringText
  rw [stringBody_written]
  simp only [Utf8.decode?_encode, String.ofList_toList]

/-! ## Whole numbers -/

/-- What follows is no part of a number. -/
def endsNumber : Bytes → Bool
  | [] => true
  | b :: _ => !isDigit b && b ≠ 0x2E && b ≠ 0x65 && b ≠ 0x45

theorem atDigit_of_endsNumber {rest : Bytes} (h : endsNumber rest = true) : atDigit rest = false := by
  cases rest with
  | nil => rfl
  | cons b more =>
    simp only [endsNumber, Bool.and_eq_true, Bool.not_eq_true'] at h
    exact h.1.1.1

theorem afterWhole_of_endsNumber {rest : Bytes} (h : endsNumber rest = true) (negative : Bool)
    (n : Nat) : afterWhole negative n rest = .ok (wholeOf negative n, rest) := by
  unfold afterWhole
  split
  · exact absurd h (by simp [endsNumber])
  · exact absurd h (by simp [endsNumber])
  · exact absurd h (by simp [endsNumber])
  · rfl

/-- The octet of a digit. -/
theorem digit_octet {c : Char} (h : c.isDigit = true) :
    String.utf8EncodeChar c = [UInt8.ofNat c.toNat] ∧ isDigit (UInt8.ofNat c.toNat) = true ∧
      (UInt8.ofNat c.toNat).toNat = c.toNat := by
  have hrange : 0x30 ≤ c.toNat ∧ c.toNat ≤ 0x39 := by
    simpa [Char.isDigit, UInt32.le_iff_toNat_le] using h
  have hn : (UInt8.ofNat c.toNat).toNat = c.toNat := by
    rw [UInt8.toNat_ofNat']
    omega
  refine ⟨Utf8.encodeChar_ascii (by omega), ?_, hn⟩
  simp only [isDigit, Bool.and_eq_true, decide_eq_true_eq, UInt8.le_iff_toNat_le, hn]
  exact hrange

theorem le_ofDigitChars (ds : List Char) (n : Nat) : n ≤ Nat.ofDigitChars 10 ds n := by
  rw [Nat.ofDigitChars_eq_ofDigitChars_zero]
  have hpower : 1 ≤ 10 ^ ds.length := Nat.one_le_pow _ _ (by decide)
  have hscaled := Nat.mul_le_mul_right n hpower
  omega

theorem takeDigits_append {ds : List Char} (hds : ∀ c ∈ ds, c.isDigit = true) {n : Nat} {rest : Bytes}
    (hfits : Nat.ofDigitChars 10 ds n < 2 ^ 64) (hrest : atDigit rest = false) :
    takeDigits n (Utf8.encode ds ++ rest) = (Nat.ofDigitChars 10 ds n, rest) := by
  induction ds generalizing n with
  | nil =>
    cases rest with
    | nil => rfl
    | cons b more =>
      have hb : isDigit b = false := hrest
      simp [takeDigits, hb]
  | cons c more ih =>
    obtain ⟨hencode, hdigit, hn⟩ := digit_octet (hds c List.mem_cons_self)
    have hnext : n * 10 + ((UInt8.ofNat c.toNat).toNat - 0x30) = 10 * n + (c.toNat - '0'.toNat) := by
      rw [hn, Nat.mul_comm]
      rfl
    rw [Nat.ofDigitChars_cons] at hfits ⊢
    have hsmall := Nat.lt_of_le_of_lt (le_ofDigitChars more _) hfits
    rw [Utf8.encode_cons, hencode, List.append_assoc, List.singleton_append, takeDigits]
    simp only [hnext, hdigit, hsmall, decide_true, Bool.and_self, if_true]
    exact ih (fun d hd => hds d (List.mem_cons_of_mem _ hd)) hfits

theorem digits_head {n : Nat} (h : 0 < n) : (Decimal.digits n).head? ≠ some '0' := by
  unfold Decimal.digits
  induction n using Nat.strongRecOn with
  | ind n ih =>
    rw [Nat.toDigits_eq_if (by decide)]
    split
    · rename_i hsmall
      have hnine : ∀ n, n < 10 → 0 < n → [n.digitChar].head? ≠ some '0' := by decide
      exact hnine n hsmall h
    · have hshorter := ih (n / 10) (by omega) (by omega)
      obtain ⟨c, ds, hds⟩ := List.exists_cons_of_ne_nil (Nat.toDigits_ne_nil (n := n / 10) (b := 10))
      rw [hds] at hshorter ⊢
      exact hshorter

/-- The digits of a number of 64 bits are read as its significand. -/
theorem signedNumber_digits (negative : Bool) {n : Nat} (hn : n < 2 ^ 64) {rest : Bytes}
    (hrest : endsNumber rest = true) :
    signedNumber negative (Utf8.encode (Decimal.digits n) ++ rest) = .ok (wholeOf negative n, rest) := by
  have hnodigit := atDigit_of_endsNumber hrest
  have hdigits : ∀ c ∈ Decimal.digits n, c.isDigit = true :=
    fun c hc => Nat.isDigit_of_mem_toDigits (by decide) (by decide) hc
  have hvalue : Nat.ofDigitChars 10 (Decimal.digits n) 0 = n := Nat.ofDigitChars_ten_toDigits
  by_cases hzero : n = 0
  · subst hzero
    have htext : Utf8.encode (Decimal.digits 0) = [0x30] := by decide
    rw [htext, List.singleton_append, signedNumber]
    simp only [hnodigit, if_true, Bool.false_eq_true, if_false]
    exact afterWhole_of_endsNumber hrest negative 0
  · have hhead := digits_head (Nat.pos_of_ne_zero hzero)
    cases hds : Decimal.digits n with
    | nil => exact absurd hds Nat.toDigits_ne_nil
    | cons c ds =>
      rw [hds] at hdigits hvalue hhead
      obtain ⟨hencode, hdigit, hc⟩ := digit_octet (hdigits c List.mem_cons_self)
      have hnotzero : UInt8.ofNat c.toNat ≠ 0x30 := by
        intro heq
        rw [heq] at hc
        have hchar : c = '0' := Char.toNat_inj.mp hc.symm
        exact hhead (by rw [hchar]; rfl)
      have hstart : (UInt8.ofNat c.toNat).toNat - 0x30 = 10 * 0 + (c.toNat - '0'.toNat) := by
        rw [hc, Nat.mul_zero, Nat.zero_add]
        rfl
      rw [Nat.ofDigitChars_cons, ← hstart] at hvalue
      have htake := takeDigits_append (fun d hd => hdigits d (List.mem_cons_of_mem _ hd))
        (by rw [hvalue]; exact hn) hnodigit
      rw [hvalue] at htake
      rw [Utf8.encode_cons, hencode, List.append_assoc, List.singleton_append, signedNumber]
      simp only [hnotzero, hdigit, htake, hnodigit, if_true, Bool.false_eq_true, if_false]
      exact afterWhole_of_endsNumber hrest negative n

/-! ## Numbers as values -/

theorem skipBlank_append {gap : Bytes} (h : ∀ b ∈ gap, Blank.isJson b = true) (s : Bytes) :
    skipBlank (gap ++ s) = skipBlank s := by
  induction gap with
  | nil => rfl
  | cons b more ih =>
    have hmore := ih fun c hc => h c (List.mem_cons_of_mem _ hc)
    rw [List.cons_append, skipBlank, List.dropWhile_cons_of_pos (h b List.mem_cons_self)]
    exact hmore

theorem skipBlank_cons {b : UInt8} (h : Blank.isJson b = false) (s : Bytes) :
    skipBlank (b :: s) = b :: s :=
  List.dropWhile_cons_of_neg (by rw [h]; decide)

theorem digits_octets (n : Nat) :
    ∃ b s, Utf8.encode (Decimal.digits n) = b :: s ∧ isDigit b = true := by
  obtain ⟨c, ds, hds⟩ := List.exists_cons_of_ne_nil (Nat.toDigits_ne_nil (n := n) (b := 10))
  have hc : c.isDigit = true :=
    Nat.isDigit_of_mem_toDigits (by decide) (by decide) (hds ▸ List.mem_cons_self)
  obtain ⟨hencode, hdigit, -⟩ := digit_octet hc
  refine ⟨UInt8.ofNat c.toNat, Utf8.encode ds, ?_, hdigit⟩
  unfold Decimal.digits
  rw [hds, Utf8.encode_cons, hencode, List.singleton_append]

theorem wholeOf_natAbs {n : Int} (h : -2 ^ 63 ≤ n ∧ n < 2 ^ 64) :
    wholeOf (n < 0) n.natAbs = .whole n h := by
  by_cases hn : n < 0
  · have hne : n.natAbs ≠ 0 := by omega
    have hneg : -(n.natAbs : Int) = n := by omega
    simp only [wholeOf, hn, decide_true, Bool.not_true, Bool.false_eq_true, if_false, hne, hneg]
    exact dif_pos h
  · have hsmall : n.natAbs < 2 ^ 64 := by omega
    have hpos : (n.natAbs : Int) = n := by omega
    simp only [wholeOf, hn, decide_false, Bool.not_false, if_true, Number.ofNat, hsmall, dite_true, hpos]

theorem ne_of_isDigit {b c : UInt8} (h : isDigit b = true) (hc : isDigit c = false) : b ≠ c := by
  rintro rfl
  rw [h] at hc
  cases hc

theorem isAscii_of_isDigit {b : UInt8} (h : isDigit b = true) : Blank.isAscii b = false := by
  have hne : ∀ c, isDigit c = false → b ≠ c := fun _ => ne_of_isDigit h
  simp [Blank.isAscii, Blank.isJson, hne 0x20 (by decide), hne 0x09 (by decide), hne 0x0A (by decide),
    hne 0x0D (by decide), hne 0x0C (by decide)]

theorem isJson_of_isAscii {b : UInt8} (h : Blank.isAscii b = false) : Blank.isJson b = false := by
  rw [Blank.isAscii, Bool.or_eq_false_iff] at h
  exact h.1

theorem valueWith_digit (nested : Option (Bytes → Read Json)) {b : UInt8} (h : isDigit b = true)
    (s : Bytes) :
    valueWith nested (b :: s) =
      (signedNumber false (b :: s)).map fun r => (.number r.1, r.2) := by
  have hne : ∀ c, isDigit c = false → b ≠ c := fun _ => ne_of_isDigit h
  have hblank : Blank.isJson b = false := isJson_of_isAscii (isAscii_of_isDigit h)
  rw [valueWith, skipBlank_cons hblank]
  simp only [h, hne 0x6E (by decide), hne 0x74 (by decide), hne 0x66 (by decide),
    hne 0x2D (by decide), if_true, if_false]

/-- A written whole number is read as itself. -/
theorem valueWith_whole (nested : Option (Bytes → Read Json)) {n : Int}
    (h : -2 ^ 63 ≤ n ∧ n < 2 ^ 64) {rest : Bytes} (hrest : endsNumber rest = true) :
    valueWith nested (Utf8.encode (intText n) ++ rest) = .ok (.number (.whole n h), rest) := by
  have hread := signedNumber_digits (n < 0) (n := n.natAbs) (by omega) hrest
  rw [wholeOf_natAbs h] at hread
  unfold intText
  split
  · rename_i hn
    have htext : Utf8.encode ('-' :: Decimal.digits n.natAbs) = 0x2D :: Utf8.encode (Decimal.digits n.natAbs) :=
      rfl
    rw [decide_eq_true hn] at hread
    rw [htext, List.cons_append, valueWith, skipBlank_cons (by decide)]
    simp [hread, Except.map]
  · rename_i hn
    obtain ⟨b, s, htext, hdigit⟩ := digits_octets n.natAbs
    rw [decide_eq_false hn, htext, List.cons_append] at hread
    rw [htext, List.cons_append]
    rw [valueWith_digit nested hdigit, hread]
    rfl

end HttpCalls.Json.Reader
