-- The parts of a text laid behind another one. As long as the first text leaves no brace
-- open, the two read as if each stood alone: no brace of one is closed by the other.
import HttpCalls.Proofs.Text.Joining
import HttpCalls.Template.Basic

namespace HttpCalls

open Text

/-! ## Texts that leave no brace open -/

/-- Every opening brace of the text has a closing one behind it. -/
def Closed (text : List Char) : Prop :=
  ∀ before after, text = before ++ '{' :: after → '}' ∈ after

theorem closed_of_plain {text : List Char} (h : '{' ∉ text) : Closed text := by
  rintro before after rfl
  simp at h

theorem Closed.append {a b : List Char} (ha : Closed a) (hb : Closed b) : Closed (a ++ b) := by
  intro before after h
  rw [List.append_eq_append_iff] at h
  obtain ⟨more, rfl, hb'⟩ | ⟨more, rfl, hrest⟩ := h
  · exact hb more after hb'
  · cases more with
    | nil => exact hb [] after (by simpa using hrest.symm)
    | cons c more =>
      simp only [List.cons_append, List.cons.injEq] at hrest
      obtain ⟨rfl, rfl⟩ := hrest
      exact List.mem_append_left b (ha before more rfl)

/-- What no brace stands in can be cut off at the end. -/
theorem Closed.of_append {a b : List Char} (h : Closed (a ++ b)) (hb : '}' ∉ b) : Closed a := by
  rintro before after rfl
  have hmem := h before (after ++ b) (by simp)
  rcases List.mem_append.mp hmem with hafter | hinb
  · exact hafter
  · exact absurd hinb hb

theorem Closed.behind {before body after : List Char}
    (h : Closed (before ++ '{' :: (body ++ '}' :: after))) : Closed after := by
  rintro more rest rfl
  exact h (before ++ '{' :: (body ++ '}' :: more)) rest (by simp)

theorem closed_cons {c : Char} {rest : List Char} :
    Closed (c :: rest) ↔ (c = '{' → '}' ∈ rest) ∧ Closed rest := by
  constructor
  · intro h
    constructor
    · rintro rfl
      exact h [] rest rfl
    · rintro before after rfl
      exact h (c :: before) after rfl
  · rintro ⟨hhead, hrest⟩ before after heq
    cases before with
    | nil =>
      cases heq
      exact hhead rfl
    | cons d before =>
      cases heq
      exact hrest before after rfl

instance Closed.decidable : (text : List Char) → Decidable (Closed text)
  | [] => isTrue (closed_of_plain (by simp))
  | _ :: rest =>
    have := Closed.decidable rest
    decidable_of_iff _ closed_cons.symm

/-! ## The parts of a text, seen through a reading -/

theorem partsOf_unopened {text : List Char} (h : cut? '{' text = none) :
    partsOf text = literalPart text := by
  rw [partsOf]
  split
  · rfl
  · rename_i hcut
    rw [h] at hcut
    cases hcut

theorem partsOf_unclosed {text before rest : List Char} (h : cut? '{' text = some (before, rest))
    (hrest : cut? '}' rest = none) : partsOf text = literalPart text := by
  rw [partsOf]
  split
  · rfl
  · rename_i hcut
    rw [h] at hcut
    cases hcut
    split
    · rfl
    · rename_i hbody
      rw [hrest] at hbody
      cases hbody

theorem partsOf_braced {text before rest body after : List Char}
    (h : cut? '{' text = some (before, rest)) (hrest : cut? '}' rest = some (body, after)) :
    partsOf text = literalPart before ++ .expression (.ofText body) :: partsOf after := by
  rw [partsOf]
  split
  · rename_i hcut
    rw [h] at hcut
    cases hcut
  · rename_i hcut
    rw [h] at hcut
    cases hcut
    split
    · rename_i hbody
      rw [hrest] at hbody
      cases hbody
    · rename_i hbody
      rw [hrest] at hbody
      cases hbody
      rfl

-- Two texts laid together have other parts than the two alone, because the last literal of
-- one and the first of the other become one. So the law is one of readings to which it is
-- all the same how a literal is cut.
section
variable {α : Type} {f : Part → List α}

/-- It is all the same to a reading how a literal is cut. -/
def Seamless (f : Part → List α) : Prop :=
  ∀ a b, f (.literal (a ++ b)) = f (.literal a) ++ f (.literal b)

theorem Seamless.literal_nil (h : Seamless f) : f (.literal []) = [] := by
  have hnil := h [] []
  simpa using hnil

theorem Seamless.flatMap_literalPart (h : Seamless f) (text : List Char) :
    (literalPart text).flatMap f = f (.literal text) := by
  cases text with
  | nil => simp [literalPart, h.literal_nil]
  | cons c rest => simp [literalPart]

theorem Seamless.flatMap_plain (h : Seamless f) {a : List Char} (b : List Char) (ha : '{' ∉ a) :
    (partsOf (a ++ b)).flatMap f = f (.literal a) ++ (partsOf b).flatMap f := by
  have hcut := cut?_append_of_notMem b ha
  rcases hb : cut? '{' b with _ | ⟨before, rest⟩
  · rw [hb] at hcut
    rw [partsOf_unopened hcut, partsOf_unopened hb, h.flatMap_literalPart, h.flatMap_literalPart, h]
  · rw [hb] at hcut
    rcases hrest : cut? '}' rest with _ | ⟨body, after⟩
    · rw [partsOf_unclosed hcut hrest, partsOf_unclosed hb hrest, h.flatMap_literalPart,
        h.flatMap_literalPart, h]
    · rw [partsOf_braced hcut hrest, partsOf_braced hb hrest]
      simp only [List.flatMap_append, h.flatMap_literalPart]
      rw [h, List.append_assoc]

/-- Behind a text that leaves no brace open another one reads as if it stood alone. -/
theorem Seamless.flatMap_append (h : Seamless f) {a : List Char} (b : List Char) (ha : Closed a) :
    (partsOf (a ++ b)).flatMap f = (partsOf a).flatMap f ++ (partsOf b).flatMap f := by
  -- the induction is on the expressions of the first text
  generalize hn : a.length = n
  induction n using Nat.strongRecOn generalizing a with
  | _ n ih =>
  rcases hcut : cut? '{' a with _ | ⟨before, rest⟩
  · have hplain := cut?_eq_none.mp hcut
    rw [h.flatMap_plain b hplain, partsOf_unopened hcut, h.flatMap_literalPart]
  · have hopen := (cut?_eq_some hcut).1
    have hclosed : '}' ∈ rest := ha before rest hopen
    rcases hrest : cut? '}' rest with _ | ⟨body, after⟩
    · exact absurd hclosed (cut?_eq_none.mp hrest)
    · have hbody := (cut?_eq_some hrest).1
      rw [hopen, hbody] at ha
      have hshorter : after.length < n := by
        have h1 := cut?_length hcut
        have h2 := cut?_length hrest
        omega
      have hafter := ih after.length hshorter ha.behind rfl
      rw [partsOf_braced (cut?_append hcut) (cut?_append hrest), partsOf_braced hcut hrest]
      simp only [List.flatMap_append, List.flatMap_cons, hafter, List.append_assoc]

end

end HttpCalls
