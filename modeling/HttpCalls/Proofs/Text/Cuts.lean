-- The beginning of a text, from the beginning of its octets. The cut may fall into a character.
-- Its octets before the cut are one broken piece then, so a lossy reading shows U+FFFD for it and
-- every character before it as it stands.
import HttpCalls.Proofs.Text.Spelling

namespace HttpCalls

namespace Utf8

/-! ## One character before a cut -/

theorem continued_take {owed code : Nat} {low high : UInt8} {bs rest : Bytes} {c : Char}
    (h : continued owed low high code bs = .char c rest) (n : Nat) :
    continued owed low high code (bs.take n) =
      if bs.length ≤ n + rest.length then .char c (rest.take (n + rest.length - bs.length))
      else .broken [] := by
  induction owed generalizing low high code bs n with
  | zero =>
    cases h
    rw [if_pos (Nat.le_add_left _ _), Nat.add_sub_cancel]
    rfl
  | succ owed ih =>
    cases bs with
    | nil => cases h
    | cons b more =>
      have hshorter : rest.length ≤ more.length := by
        rw [continued] at h
        split at h
        · exact (continued_rest_le _ _ _ _ more).1 c rest h
        · cases h
      cases n with
      | zero =>
        rw [if_neg (by simp; omega)]
        rfl
      | succ n =>
        rw [continued] at h
        rw [List.take_succ_cons, continued]
        split at h
        · rename_i hbetween
          rw [if_pos hbetween, ih h n, List.length_cons, Nat.add_right_comm n 1, Nat.add_sub_add_right]
          simp only [Nat.add_le_add_iff_right]
        · cases h

/-- A character that is cut off leaves one broken piece, and nothing behind it. -/
theorem head_take_encodeChar (c : Char) (rest : Bytes) {n : Nat} (hn : 0 < n) :
    head ((String.utf8EncodeChar c ++ rest).take n) =
      if (String.utf8EncodeChar c).length ≤ n then
        .char c (rest.take (n - (String.utf8EncodeChar c).length))
      else .broken [] := by
  have hwhole := head_encodeChar c rest
  have hlength : (String.utf8EncodeChar c ++ rest).length =
      (String.utf8EncodeChar c).length + rest.length := List.length_append
  generalize String.utf8EncodeChar c ++ rest = bs at hwhole hlength
  cases bs with
  | nil => cases hwhole
  | cons b more =>
    obtain ⟨m, rfl⟩ := Nat.exists_eq_add_of_lt hn
    rw [Nat.zero_add, List.take_succ_cons, head]
    rw [head] at hwhole
    rw [List.length_cons] at hlength
    split at hwhole
    · cases hwhole
    · rw [continued_take hwhole]
      split
      · rw [if_pos (by omega)]
        congr 2
        omega
      · rw [if_neg (by omega)]

/-! ## A text before a cut -/

theorem lossy_nil : lossy [] = [] := by
  rw [lossy]
  rfl

theorem lossy_of_char {bs rest : Bytes} {c : Char} (h : head bs = .char c rest) :
    lossy bs = c :: lossy rest := by
  rw [lossy]
  split
  · rename_i hdone
    cases h.symm.trans hdone
  · rename_i hchar
    cases h.symm.trans hchar
    rfl
  · rename_i hbroken
    cases h.symm.trans hbroken

theorem lossy_of_broken {bs rest : Bytes} (h : head bs = .broken rest) :
    lossy bs = '\uFFFD' :: lossy rest := by
  rw [lossy]
  split
  · rename_i hdone
    cases h.symm.trans hdone
  · rename_i hchar
    cases h.symm.trans hchar
  · rename_i hbroken
    cases h.symm.trans hbroken
    rfl

/-- What is shown of a text of which no more than `limit` octets are read. -/
inductive ShownWithin (limit : Nat) : List Char → List Char → Prop
  | whole {text} : (encode text).length ≤ limit → ShownWithin limit text text
  /-- The cut falls between two characters. -/
  | between (kept lost) : (encode kept).length = limit → ShownWithin limit (kept ++ lost) kept
  /-- The cut falls into a character. -/
  | inside (kept c lost) : (encode kept).length < limit → limit < (encode (kept ++ [c])).length →
      ShownWithin limit (kept ++ c :: lost) (kept ++ ['\uFFFD'])

theorem ShownWithin.cons {limit : Nat} {text shown : List Char} (h : ShownWithin limit text shown)
    (c : Char) : ShownWithin ((String.utf8EncodeChar c).length + limit) (c :: text) (c :: shown) := by
  have hlength : ∀ more, (encode (c :: more)).length =
      (String.utf8EncodeChar c).length + (encode more).length := by
    intro more
    rw [encode_cons, List.length_append]
  cases h with
  | whole hfits => exact .whole (by rw [hlength]; omega)
  | between _ lost hfull => exact .between (c :: shown) lost (by rw [hlength]; omega)
  | inside kept d lost hbefore hafter =>
    exact .inside (c :: kept) d lost (by rw [hlength]; omega)
      (by rw [List.cons_append, hlength]; omega)

/-- A lossy reading of the first octets of a text shows what the text has before the cut. -/
theorem shownWithin_lossy_take (limit : Nat) (text : List Char) :
    ShownWithin limit text (lossy ((encode text).take limit)) := by
  induction text generalizing limit with
  | nil =>
    rw [encode_nil, List.take_nil, lossy_nil]
    exact .whole (Nat.zero_le _)
  | cons c rest ih =>
    rcases Nat.eq_zero_or_pos limit with rfl | hlimit
    · rw [List.take_zero, lossy_nil]
      exact .between [] _ rfl
    · have hhead := head_take_encodeChar c (encode rest) hlimit
      rw [encode_cons]
      by_cases hfits : (String.utf8EncodeChar c).length ≤ limit
      · rw [if_pos hfits] at hhead
        rw [lossy_of_char hhead]
        have hcons := (ih (limit - (String.utf8EncodeChar c).length)).cons c
        rwa [Nat.add_sub_cancel' hfits] at hcons
      · rw [if_neg hfits] at hhead
        rw [lossy_of_broken hhead, lossy_nil]
        refine .inside [] _ _ hlimit ?_
        rw [List.nil_append, encode_cons, encode_nil, List.append_nil]
        omega

end Utf8

end HttpCalls
