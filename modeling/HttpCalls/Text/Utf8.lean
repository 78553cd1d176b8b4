-- Octets and the text they spell. Every text has one spelling in UTF-8. The
-- other way some octets spell nothing; a lossy reading puts U+FFFD in the place
-- of each longest piece that starts like a character and does not end as one.

namespace HttpCalls

/-- Octets, first one first. -/
abbrev Bytes := List UInt8

namespace Utf8

/-! ## From text to octets -/

/-- The octets of a text. -/
def encode (text : List Char) : Bytes := text.flatMap String.utf8EncodeChar

/-- The octets of a string. -/
def ofString (s : String) : Bytes := encode s.toList

/-! ## From octets to text -/

/-- What stands at the head of some octets. -/
inductive Head
  /-- Nothing is left. -/
  | done
  /-- One character, and what follows it. -/
  | char (c : Char) (rest : Bytes)
  /-- A piece that no text has, and what follows it. -/
  | broken (rest : Bytes)

/-- The octets owed after a first octet, the bounds of the next one, and the bits
that the first octet gives to the code point. -/
def opening (b : UInt8) : Option (Nat × UInt8 × UInt8 × Nat) :=
  if b < 0x80 then some (0, 0x80, 0xBF, b.toNat)
  else if 0xC2 ≤ b ∧ b ≤ 0xDF then some (1, 0x80, 0xBF, b.toNat - 0xC0)
  else if b = 0xE0 then some (2, 0xA0, 0xBF, 0)
  else if b = 0xED then some (2, 0x80, 0x9F, 0xD)
  else if 0xE1 ≤ b ∧ b ≤ 0xEF then some (2, 0x80, 0xBF, b.toNat - 0xE0)
  else if b = 0xF0 then some (3, 0x90, 0xBF, 0)
  else if 0xF1 ≤ b ∧ b ≤ 0xF3 then some (3, 0x80, 0xBF, b.toNat - 0xF0)
  else if b = 0xF4 then some (3, 0x80, 0x8F, 4)
  else none

/-- Reads the octets still owed; the first of them stands between `low` and `high`. -/
def continued : Nat → UInt8 → UInt8 → Nat → Bytes → Head
  | 0, _, _, code, rest => .char (Char.ofNat code) rest
  | _ + 1, _, _, _, [] => .broken []
  | owed + 1, low, high, code, b :: rest =>
    if low ≤ b ∧ b ≤ high then continued owed 0x80 0xBF (code * 64 + (b.toNat - 0x80)) rest
    else .broken (b :: rest)

/-- Splits off the first character, or the first broken piece. -/
def head : Bytes → Head
  | [] => .done
  | b :: rest =>
    match opening b with
    | none => .broken rest
    | some (owed, low, high, code) => continued owed low high code rest

theorem continued_rest_le (owed : Nat) (low high : UInt8) (code : Nat) (bs : Bytes) :
    (∀ c rest, continued owed low high code bs = .char c rest → rest.length ≤ bs.length) ∧
    (∀ rest, continued owed low high code bs = .broken rest → rest.length ≤ bs.length) := by
  induction owed generalizing low high code bs with
  | zero =>
    constructor
    · intro c rest h
      simp only [continued, Head.char.injEq] at h
      simp [h.2]
    · intro rest h
      simp [continued] at h
  | succ n ih =>
    cases bs with
    | nil => simp [continued]
    | cons b rest =>
      by_cases hb : low ≤ b ∧ b ≤ high
      · have h := ih 0x80 0xBF (code * 64 + (b.toNat - 0x80)) rest
        refine ⟨fun c r hr => ?_, fun r hr => ?_⟩
        · rw [continued, if_pos hb] at hr
          exact Nat.le_succ_of_le (h.1 c r hr)
        · rw [continued, if_pos hb] at hr
          exact Nat.le_succ_of_le (h.2 r hr)
      · refine ⟨fun c r hr => ?_, fun r hr => ?_⟩
        · rw [continued, if_neg hb] at hr
          cases hr
        · rw [continued, if_neg hb, Head.broken.injEq] at hr
          simp [← hr]

theorem head_char_lt {bs rest : Bytes} {c : Char} (h : head bs = .char c rest) :
    rest.length < bs.length := by
  cases bs with
  | nil => cases h
  | cons b bs =>
    simp only [head] at h
    split at h
    · cases h
    · exact Nat.lt_succ_of_le ((continued_rest_le _ _ _ _ bs).1 c rest h)

theorem head_broken_lt {bs rest : Bytes} (h : head bs = .broken rest) :
    rest.length < bs.length := by
  cases bs with
  | nil => cases h
  | cons b bs =>
    simp only [head] at h
    split at h
    · cases h
      exact Nat.lt_succ_self _
    · exact Nat.lt_succ_of_le ((continued_rest_le _ _ _ _ bs).2 rest h)

/-- The text that the octets spell, if they spell one. -/
def decode? (bs : Bytes) : Option (List Char) :=
  match _h : head bs with
  | .done => some []
  | .char c rest => (decode? rest).map (c :: ·)
  | .broken _ => none
termination_by bs.length
decreasing_by exact head_char_lt _h

/-- The text of the octets, with U+FFFD for each broken piece. -/
def lossy (bs : Bytes) : List Char :=
  match _h : head bs with
  | .done => []
  | .char c rest => c :: lossy rest
  | .broken rest => '\uFFFD' :: lossy rest
termination_by bs.length
decreasing_by
  · exact head_char_lt _h
  · exact head_broken_lt _h

/-- How many octets stand before the first broken piece. -/
def soundLength (bs : Bytes) : Nat :=
  match _h : head bs with
  | .done => 0
  | .char _ rest => (bs.length - rest.length) + soundLength rest
  | .broken _ => 0
termination_by bs.length
decreasing_by exact head_char_lt _h

end Utf8

end HttpCalls
