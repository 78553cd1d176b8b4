-- The text of a template and its parts. The text is cut into stretches, those in braces and the
-- literal ones around them, and nothing of it is lost. A brace that is never closed is literal with
-- all that follows it, and there is no other way to cut the text so.
import HttpCalls.Proofs.Template.Parts

namespace HttpCalls

open Text

/-! ## Stretches of a text -/

/-- A stretch of a template's text. -/
inductive Stretch
  | literal (text : List Char)
  /-- What stands between two braces, with the braces. -/
  | braced (body : List Char)
deriving DecidableEq, Repr

namespace Stretch

/-- The stretch as it stands in the text. -/
def text : Stretch → List Char
  | .literal text => text
  | .braced body => '{' :: (body ++ ['}'])

/-- The part that the stretch is read as. -/
def part : Stretch → Part
  | .literal text => .literal text
  | .braced body => .expression (.ofText body)

end Stretch

/-- No brace that is opened in the text is closed. -/
def Unclosed (text : List Char) : Prop :=
  ∀ before after, text = before ++ '{' :: after → '{' ∉ before → '}' ∉ after

/-- The stretches make up the text. Braces end at the first closing one, literals are as long as
they can be, and only the last one may hold an opening brace, which is then never closed. -/
structure IsCut (text : List Char) (stretches : List Stretch) : Prop where
  whole : stretches.flatMap Stretch.text = text
  body : ∀ body, .braced body ∈ stretches → '}' ∉ body
  filled : .literal [] ∉ stretches
  apart : ∀ (i : Nat) a b, stretches[i]? = some (.literal a) →
    stretches[i + 1]? ≠ some (.literal b)
  plain : ∀ (i : Nat) a, stretches[i]? = some (.literal a) → '{' ∈ a →
    i + 1 = stretches.length ∧ Unclosed a

/-! ## Cutting in turns -/

/-- A text as a literal stretch, unless it is empty. -/
def literalStretch (text : List Char) : List Stretch :=
  if text.isEmpty then [] else [.literal text]

/-- The stretches come off a text one expression after the other, each with the literal before it,
up to a literal in which no brace is closed. -/
inductive CutInTurns : List Stretch → Prop
  | last {a : List Char} : Unclosed a → CutInTurns (literalStretch a)
  | turn {a body : List Char} {more : List Stretch} : '{' ∉ a → '}' ∉ body → CutInTurns more →
    CutInTurns (literalStretch a ++ .braced body :: more)

section
variable {a b body : List Char} {more stretches : List Stretch}

theorem literalStretch_of_ne_nil (h : a ≠ []) : literalStretch a = [.literal a] :=
  if_neg (by simpa using h)

theorem map_part_literalStretch (a : List Char) :
    (literalStretch a).map Stretch.part = literalPart a := by
  cases a <;> rfl

theorem text_literalStretch (a : List Char) : (literalStretch a).flatMap Stretch.text = a := by
  cases a <;> simp [literalStretch, Stretch.text]

theorem text_turn (a body : List Char) (more : List Stretch) :
    (literalStretch a ++ .braced body :: more).flatMap Stretch.text =
      a ++ '{' :: (body ++ '}' :: more.flatMap Stretch.text) := by
  rw [List.flatMap_append, text_literalStretch, List.flatMap_cons, Stretch.text]
  simp

theorem unclosed_of_plain (h : '{' ∉ a) : Unclosed a := by
  rintro before after rfl
  simp at h

theorem not_unclosed (h : '{' ∉ a) (b : List Char) : ¬Unclosed (a ++ '{' :: (body ++ '}' :: b)) := by
  intro hunclosed
  have hnone := hunclosed a _ rfl h
  simp at hnone

/-- A text has no closed brace, or a first one that is closed. -/
theorem unclosed_or_turn (text : List Char) :
    Unclosed text ∨
      ∃ a body b, text = a ++ '{' :: (body ++ '}' :: b) ∧ '{' ∉ a ∧ '}' ∉ body := by
  rcases hopen : cut? '{' text with _ | ⟨a, rest⟩
  · exact .inl (unclosed_of_plain (cut?_eq_none.mp hopen))
  · obtain ⟨rfl, ha⟩ := cut?_eq_some hopen
    rcases hclose : cut? '}' rest with _ | ⟨body, b⟩
    · left
      intro before after heq hbefore
      rw [heq, cut?_append_sep after hbefore] at hopen
      cases hopen
      exact cut?_eq_none.mp hclose
    · obtain ⟨rfl, hbody⟩ := cut?_eq_some hclose
      exact .inr ⟨a, body, b, rfl, ha, hbody⟩

theorem partsOf_of_unclosed (h : Unclosed a) : partsOf a = literalPart a := by
  rcases hopen : cut? '{' a with _ | ⟨before, rest⟩
  · exact partsOf_unopened hopen
  · obtain ⟨heq, hbefore⟩ := cut?_eq_some hopen
    exact partsOf_unclosed hopen (cut?_eq_none.mpr (h before rest heq hbefore))

theorem partsOf_turn (ha : '{' ∉ a) (hbody : '}' ∉ body) (b : List Char) :
    partsOf (a ++ '{' :: (body ++ '}' :: b)) =
      literalPart a ++ .expression (.ofText body) :: partsOf b :=
  partsOf_braced (cut?_append_sep _ ha) (cut?_append_sep _ hbody)

/-! ## Every text is cut in turns, and in one way -/

theorem exists_cutInTurns (text : List Char) :
    ∃ stretches, CutInTurns stretches ∧ stretches.flatMap Stretch.text = text := by
  -- the induction is on what stands behind the first expression
  generalize hn : text.length = n
  induction n using Nat.strongRecOn generalizing text with
  | _ n ih =>
  rcases unclosed_or_turn text with h | ⟨a, body, b, rfl, ha, hbody⟩
  · exact ⟨literalStretch text, .last h, text_literalStretch text⟩
  · have hshorter : b.length < n := by
      simp only [List.length_append, List.length_cons] at hn
      omega
    obtain ⟨more, hmore, hb⟩ := ih b.length hshorter b rfl
    refine ⟨_, .turn ha hbody hmore, ?_⟩
    rw [text_turn, hb]

theorem CutInTurns.parts (h : CutInTurns stretches) :
    partsOf (stretches.flatMap Stretch.text) = stretches.map Stretch.part := by
  induction h with
  | last ha => rw [text_literalStretch, partsOf_of_unclosed ha, map_part_literalStretch]
  | turn ha hbody _ ih =>
    rw [text_turn, partsOf_turn ha hbody, ih, List.map_append, map_part_literalStretch]
    rfl

theorem CutInTurns.unique {others : List Stretch} (h : CutInTurns stretches)
    (h' : CutInTurns others)
    (htext : stretches.flatMap Stretch.text = others.flatMap Stretch.text) :
    stretches = others := by
  induction h generalizing others with
  | last ha =>
    cases h' with
    | last ha' =>
      rw [text_literalStretch, text_literalStretch] at htext
      rw [htext]
    | turn ha' =>
      rw [text_literalStretch, text_turn] at htext
      exact absurd (htext ▸ ha) (not_unclosed ha' _)
  | turn ha hbody _ ih =>
    cases h' with
    | last ha' =>
      rw [text_literalStretch, text_turn] at htext
      exact absurd (htext ▸ ha') (not_unclosed ha _)
    | turn ha' hbody' hmore' =>
      rw [text_turn, text_turn] at htext
      -- the first opening brace is at the same place, and so is the closing one behind it
      obtain ⟨rfl, hrest⟩ := append_sep_inj ha ha' htext
      obtain ⟨rfl, hmore⟩ := append_sep_inj hbody hbody' hrest
      rw [ih hmore' hmore]

/-! ## The conditions of a cut -/

theorem IsCut.behind {text : List Char} {s : Stretch} (h : IsCut text (s :: more)) :
    IsCut (more.flatMap Stretch.text) more := by
  constructor
  · rfl
  · exact fun body hbody => h.body body (List.mem_cons_of_mem _ hbody)
  · exact fun hnil => h.filled (List.mem_cons_of_mem _ hnil)
  · exact fun i => h.apart (i + 1)
  · intro i a ha hopen
    have hlast := h.plain (i + 1) a ha hopen
    rw [List.length_cons] at hlast
    exact ⟨by omega, hlast.2⟩

theorem IsCut.inTurns {text : List Char} (h : IsCut text stretches) : CutInTurns stretches := by
  generalize hn : stretches.length = n
  induction n using Nat.strongRecOn generalizing text stretches with
  | _ n ih =>
  match stretches with
  | [] => exact .last (a := []) (unclosed_of_plain (by simp))
  | .braced body :: more =>
    have hshorter : more.length < n := by
      rw [List.length_cons] at hn
      omega
    have hmore := ih more.length hshorter h.behind rfl
    exact .turn (a := []) (by simp) (h.body body List.mem_cons_self) hmore
  | .literal a :: more =>
    have ha : a ≠ [] := by
      rintro rfl
      exact h.filled List.mem_cons_self
    match more with
    | [] =>
      have hunclosed : Unclosed a := by
        by_cases hopen : '{' ∈ a
        · exact (h.plain 0 a rfl hopen).2
        · exact unclosed_of_plain hopen
      rw [← literalStretch_of_ne_nil ha]
      exact .last hunclosed
    | .literal b :: _ => exact absurd rfl (h.apart 0 a b rfl)
    | .braced body :: more =>
      have hplain : '{' ∉ a := by
        intro hopen
        have hlast := (h.plain 0 a rfl hopen).1
        simp at hlast
      have hbody := h.body body (List.mem_cons_of_mem _ List.mem_cons_self)
      have hshorter : more.length < n := by
        rw [List.length_cons, List.length_cons] at hn
        omega
      have hmore := ih more.length hshorter h.behind.behind rfl
      have hturn := CutInTurns.turn hplain hbody hmore
      rw [literalStretch_of_ne_nil ha] at hturn
      exact hturn

theorem isCut_last (h : Unclosed a) : IsCut a (literalStretch a) := by
  by_cases ha : a = []
  · subst ha
    constructor <;> simp [literalStretch]
  · rw [literalStretch_of_ne_nil ha]
    refine ⟨by simp [Stretch.text], by simp, by simpa using Ne.symm ha, by simp, ?_⟩
    intro i b hb _
    rw [List.getElem?_singleton] at hb
    split at hb
    · rename_i hi
      cases hb
      exact ⟨by simp [hi], h⟩
    · cases hb

theorem isCut_braced (hbody : '}' ∉ body) (h : IsCut b more) :
    IsCut ('{' :: (body ++ '}' :: b)) (.braced body :: more) := by
  constructor
  · simp [Stretch.text, h.whole]
  · intro other hmem
    rcases List.mem_cons.mp hmem with heq | hmem
    · cases heq
      exact hbody
    · exact h.body other hmem
  · simpa using h.filled
  · intro i c d hc
    cases i with
    | zero => cases hc
    | succ i => exact h.apart i c d hc
  · intro i c hc hopen
    cases i with
    | zero => cases hc
    | succ i =>
      obtain ⟨hlast, hunclosed⟩ := h.plain i c hc hopen
      exact ⟨by simp [hlast], hunclosed⟩

theorem isCut_literal (hne : a ≠ []) (ha : '{' ∉ a) (h : IsCut b (.braced body :: more)) :
    IsCut (a ++ b) (.literal a :: .braced body :: more) := by
  constructor
  · rw [List.flatMap_cons, h.whole]
    rfl
  · intro other hmem
    exact h.body other (by simpa using hmem)
  · intro hmem
    rcases List.mem_cons.mp hmem with heq | hmem
    · cases heq
      exact hne rfl
    · exact h.filled hmem
  · intro i c d hc
    cases i with
    | zero => simp
    | succ i => exact h.apart i c d hc
  · intro i c hc hopen
    cases i with
    | zero =>
      cases hc
      exact absurd hopen ha
    | succ i =>
      obtain ⟨hlast, hunclosed⟩ := h.plain i c hc hopen
      exact ⟨by simp [hlast], hunclosed⟩

theorem CutInTurns.isCut (h : CutInTurns stretches) :
    IsCut (stretches.flatMap Stretch.text) stretches := by
  induction h with
  | @last a h =>
    rw [text_literalStretch]
    exact isCut_last h
  | @turn a body more ha hbody _ ih =>
    rw [text_turn]
    have hbraced := isCut_braced hbody ih
    by_cases hne : a = []
    · subst hne
      exact hbraced
    · rw [literalStretch_of_ne_nil hne]
      exact isCut_literal hne ha hbraced

end

/-! ## The law -/

/-- The text of a template is cut in one way only, and its parts are what the stretches are read
as: a literal stretch as it stands, one in braces as the expression between them. -/
theorem a_text_is_cut_into_its_parts_in_one_way (text : List Char) :
    ∃ stretches, IsCut text stretches ∧
      (Template.mk text).parts = stretches.map Stretch.part ∧
      ∀ others, IsCut text others → others = stretches := by
  obtain ⟨stretches, hturns, rfl⟩ := exists_cutInTurns text
  refine ⟨stretches, hturns.isCut, hturns.parts, ?_⟩
  intro others hothers
  exact hothers.inTurns.unique hturns hothers.whole

/-- Braces in all places: one that closes nothing, one that opens twice, an expression without a
variable and a brace that is never closed. -/
theorem two_expressions_among_stray_braces :
    let text := ['é', '}', '{', '{', 'b', '}', '{', '}', 'c', '{', 'd']
    let stretches : List Stretch :=
      [.literal ['é', '}'], .braced ['{', 'b'], .braced [], .literal ['c', '{', 'd']]
    IsCut text stretches ∧
      (Template.mk text).parts =
        [.literal ['é', '}'], .expression (.ofText ['{', 'b']), .expression (.ofText []),
         .literal ['c', '{', 'd']] := by
  intro text stretches
  have hend : IsCut ['c', '{', 'd'] [.literal ['c', '{', 'd']] := by
    apply isCut_last
    intro before after heq hbefore
    obtain ⟨-, rfl⟩ := append_sep_inj (a := ['c']) (b := ['d']) (by decide) hbefore heq
    decide
  have hnothing : '}' ∉ ([] : List Char) := by simp
  have hopening : '}' ∉ ['{', 'b'] := by decide
  have hcut : IsCut text stretches :=
    isCut_literal (a := ['é', '}']) (by decide) (by decide)
      (isCut_braced hopening (isCut_braced hnothing hend))
  obtain ⟨found, -, hparts, hunique⟩ := a_text_is_cut_into_its_parts_in_one_way text
  refine ⟨hcut, ?_⟩
  rw [hparts, ← hunique stretches hcut]
  rfl

end HttpCalls
