-- Small letters. Each ASCII capital has one, every other character stays as it is, and so a text
-- that was written in small letters is not changed any more.

namespace HttpCalls

theorem isAlphanum_cases (c : Char) :
    c.isAlphanum = ((c.isUpper || c.isLower) || c.isDigit) := rfl

/-- A capital becomes a small letter, and every other character stays. -/
theorem toLower_cases (c : Char) :
    (c.isUpper = true ∧ 97 ≤ c.toLower.toNat ∧ c.toLower.toNat ≤ 122) ∨
      (c.isUpper = false ∧ c.toLower = c) := by
  by_cases h : c.val ≥ 'A'.val ∧ c.val ≤ 'Z'.val
  · have hlow : 65 ≤ c.val.toNat := UInt32.le_iff_toNat_le.mp h.1
    have hhigh : c.val.toNat ≤ 90 := UInt32.le_iff_toNat_le.mp h.2
    have hlower : c.toLower.val = c.val + 32 := congrArg Char.val (dif_pos h)
    have hsum : c.toLower.toNat = c.val.toNat + 32 := by
      have hfits : c.val.toNat + (32 : UInt32).toNat < 4294967296 := by
        show c.val.toNat + 32 < 4294967296
        omega
      show c.toLower.val.toNat = _
      rw [hlower, UInt32.toNat_add, Nat.mod_eq_of_lt hfits]
      rfl
    exact .inl ⟨decide_eq_true h, by omega, by omega⟩
  · exact .inr ⟨decide_eq_false h, dif_neg h⟩

theorem isLower_of_toNat {c : Char} (h : 97 ≤ c.toNat ∧ c.toNat ≤ 122) : c.isLower = true :=
  Bool.and_eq_true_iff.mpr ⟨decide_eq_true (UInt32.le_iff_toNat_le.mpr h.1),
    decide_eq_true (UInt32.le_iff_toNat_le.mpr h.2)⟩

theorem small_letter {c : Char} (h : 97 ≤ c.toNat ∧ c.toNat ≤ 122) :
    c.isUpper = false ∧ c.isAlphanum = true := by
  have hlower := isLower_of_toNat h
  constructor
  · apply decide_eq_false
    intro hupper
    have : c.toNat ≤ 90 := UInt32.le_iff_toNat_le.mp hupper.2
    omega
  · rw [isAlphanum_cases, hlower, Bool.or_true, Bool.true_or]

theorem isUpper_toLower (c : Char) : c.toLower.isUpper = false := by
  rcases toLower_cases c with ⟨-, hsmall⟩ | ⟨hupper, hsame⟩
  · exact (small_letter hsmall).1
  · rw [hsame, hupper]

theorem toLower_toLower (c : Char) : c.toLower.toLower = c.toLower := by
  rcases toLower_cases c.toLower with ⟨hupper, -⟩ | ⟨-, hsame⟩
  · rw [isUpper_toLower] at hupper
    cases hupper
  · exact hsame

/-- Only small letters come from other characters. -/
theorem toLower_eq {c d : Char} (h : c.toLower = d) (hd : d.isLower = false) : c = d := by
  rcases toLower_cases c with ⟨-, hsmall⟩ | ⟨-, hsame⟩
  · rw [h] at hsmall
    rw [isLower_of_toNat hsmall] at hd
    cases hd
  · exact hsame.symm.trans h

end HttpCalls
