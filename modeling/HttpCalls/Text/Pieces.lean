-- Cutting a text at a separator: once at the first place where it stands, or at
-- every place. The pieces of a text and its separators make up the text again.

namespace HttpCalls.Text

/-- The text before the first `sep` and the text after it. -/
def cut? (sep : Char) : List Char → Option (List Char × List Char)
  | [] => none
  | c :: rest =>
    if c = sep then some ([], rest)
    else (cut? sep rest).map fun (before, after) => (c :: before, after)

/-- A cut loses nothing, and no separator stands before it. -/
theorem cut?_eq_some {sep : Char} {text before after : List Char}
    (h : cut? sep text = some (before, after)) :
    text = before ++ sep :: after ∧ sep ∉ before := by
  induction text generalizing before after with
  | nil => simp [cut?] at h
  | cons c rest ih =>
    unfold cut? at h
    split at h
    · rename_i hc
      simp only [Option.some.injEq, Prod.mk.injEq] at h
      obtain ⟨rfl, rfl⟩ := h
      simp [hc]
    · rename_i hc
      obtain ⟨⟨b, a⟩, hb, hba⟩ := Option.map_eq_some_iff.1 h
      simp only [Prod.mk.injEq] at hba
      obtain ⟨rfl, rfl⟩ := hba
      obtain ⟨h1, h2⟩ := ih hb
      exact ⟨by simp [← h1], by simp [Ne.symm hc, h2]⟩

theorem cut?_eq_none {sep : Char} {text : List Char} : cut? sep text = none ↔ sep ∉ text := by
  induction text with
  | nil => simp [cut?]
  | cons c rest ih =>
    by_cases hc : c = sep
    · simp [cut?, hc]
    · simp [cut?, hc, ih, Ne.symm hc]

theorem cut?_length {sep : Char} {text before after : List Char}
    (h : cut? sep text = some (before, after)) : after.length < text.length := by
  rw [(cut?_eq_some h).1]
  simp
  omega

/-- The pieces between the separators; a text without one is a single piece. -/
def pieces (sep : Char) : List Char → List (List Char)
  | [] => [[]]
  | c :: rest =>
    if c = sep then [] :: pieces sep rest
    else
      match pieces sep rest with
      | [] => [[c]]
      | piece :: more => (c :: piece) :: more

/-- The texts in a row with `sep` between them. -/
def joined (sep : List Char) : List (List Char) → List Char
  | [] => []
  | [text] => text
  | text :: more => text ++ sep ++ joined sep more

/-- Whether the text starts with `start`. -/
def startsWith (start text : List Char) : Bool := start.isPrefixOf text

/-- The text without `start` at its head, if it starts so. -/
def dropStart? : List Char → List Char → Option (List Char)
  | [], text => some text
  | _ :: _, [] => none
  | s :: start, c :: text => if s = c then dropStart? start text else none

end HttpCalls.Text
