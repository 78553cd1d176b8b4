-- Values under keys, in the order in which the keys were first used. A key that is
-- used again keeps its place and takes the new value.

namespace HttpCalls

/-- Values under keys, in order. -/
abbrev Keyed (κ α : Type) := List (κ × α)

namespace Keyed

variable {κ α : Type} [DecidableEq κ]

/-- The value under a key. -/
def get? (key : κ) : Keyed κ α → Option α
  | [] => none
  | (k, v) :: rest => if k = key then some v else get? key rest

/-- The entries with `value` under `key`, in the place of an older value. -/
def put (key : κ) (value : α) : Keyed κ α → Keyed κ α
  | [] => [(key, value)]
  | (k, v) :: rest => if k = key then (key, value) :: rest else (k, v) :: put key value rest

/-- The entries without a key. -/
def erase (key : κ) (l : Keyed κ α) : Keyed κ α := List.filter (·.1 ≠ key) l

/-- Whether there is a value under a key. -/
def has (key : κ) (l : Keyed κ α) : Bool := (get? key l).isSome

theorem get?_put (key other : κ) (value : α) (l : Keyed κ α) :
    get? other (put key value l) = if key = other then some value else get? other l := by
  induction l with
  | nil => simp [put, get?]
  | cons e rest ih =>
    obtain ⟨k, v⟩ := e
    by_cases hk : k = key
    · subst hk
      by_cases ho : k = other <;> simp [put, get?, ho]
    · by_cases ho : k = other
      · subst ho
        simp [put, get?, hk, Ne.symm hk]
      · simp [put, get?, hk, ho, ih]

theorem get?_erase (key other : κ) (l : Keyed κ α) :
    get? other (erase key l) = if key = other then none else get? other l := by
  induction l with
  | nil => simp [erase, get?]
  | cons e rest ih =>
    obtain ⟨k, v⟩ := e
    rw [erase] at ih
    by_cases hk : k = key
    · subst hk
      by_cases ho : k = other
      · subst ho
        simpa [erase, get?] using ih
      · simpa [erase, get?, ho] using ih
    · by_cases ho : k = other
      · subst ho
        simp [erase, get?, hk, Ne.symm hk]
      · simpa [erase, get?, hk, ho] using ih

end Keyed

end HttpCalls
