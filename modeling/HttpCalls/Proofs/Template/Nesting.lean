-- Templates laid one behind the other. Behind a text that leaves no brace open another one
-- expands as if it stood alone, so a nested template expands to its base, the slash between
-- the two, and its child.
import HttpCalls.Dispatch.Dispatcher
import HttpCalls.Proofs.Template.Parts
import HttpCalls.Proofs.Template.Variables

namespace HttpCalls

open Text

/-! ## Expansions and names of texts laid together -/

namespace Template

theorem expand_append {a : List Char} (b : List Char) (h : Closed a) (values : Fields) :
    (mk (a ++ b)).expand values = (mk a).expand values ++ (mk b).expand values := by
  have hseamless : Seamless (Part.expand values) := fun _ _ => rfl
  exact hseamless.flatMap_append b h

theorem expand_plain {text : List Char} (h : '{' ∉ text) (values : Fields) :
    (mk text).expand values = text := by
  unfold expand parts
  rw [partsOf_unopened (cut?_eq_none.mpr h)]
  cases text <;> simp [literalPart, Part.expand]

theorem variableNames_append {a : List Char} (b : List Char) (h : Closed a) :
    (mk (a ++ b)).variableNames =
      (mk a).variableNames ++ (mk b).variableNames.filter (· ∉ (mk a).variableNames) := by
  have hseamless : Seamless fun part : Part => part.vars.map (·.name) := fun _ _ => rfl
  unfold variableNames parts
  simp only
  rw [hseamless.flatMap_append b h, distinct_append]

theorem variableNames_plain {text : List Char} (h : '{' ∉ text) : (mk text).variableNames = [] := by
  unfold variableNames parts
  rw [partsOf_unopened (cut?_eq_none.mpr h)]
  cases text <;> rfl

end Template

/-! ## Nesting -/

/-- What stands between a base without slashes at its end and a child. -/
def slashBefore : List Char → List Char
  | '/' :: _ | '?' :: _ | '#' :: _ => []
  | '{' :: c :: _ => if c ∈ ['/', '?', '&', '#', '.', ';'] then [] else ['/']
  | _ => ['/']

theorem isGlued_iff (child : List Char) : isGlued child = true ↔ slashBefore child = [] := by
  unfold slashBefore
  split
  · simp [isGlued, gluedHeads, startsWith]
  · simp [isGlued, gluedHeads, startsWith]
  · simp [isGlued, gluedHeads, startsWith]
  · simp only [isGlued, gluedHeads, startsWith, List.any_cons, List.isPrefixOf, List.any_nil]
    grind
  · rename_i hslash hmark hhash hbrace
    rcases child with _ | ⟨c, rest⟩
    · decide
    · have hc : c ≠ '/' ∧ c ≠ '?' ∧ c ≠ '#' :=
        ⟨fun h => hslash rest (h ▸ rfl), fun h => hmark rest (h ▸ rfl), fun h => hhash rest (h ▸ rfl)⟩
      rcases rest with _ | ⟨d, rest⟩
      · simp only [isGlued, gluedHeads, startsWith, List.any_cons, List.isPrefixOf, List.any_nil]
        grind
      · have hd : c ≠ '{' := fun h => hbrace d rest (h ▸ rfl)
        simp only [isGlued, gluedHeads, startsWith, List.any_cons, List.isPrefixOf, List.any_nil]
        grind

theorem slashBefore_cases (child : List Char) : slashBefore child = [] ∨ slashBefore child = ['/'] := by
  unfold slashBefore
  split
  all_goals first | exact .inl rfl | exact .inr rfl | (split <;> simp)

theorem exists_slashes (text : List Char) :
    ∃ n, text = withoutFinalSlashes text ++ List.replicate n '/' := by
  have hcut := List.takeWhile_append_dropWhile (p := (· = '/')) (l := text.reverse)
  have hslashes : ∀ c ∈ text.reverse.takeWhile (· = '/'), c = '/' := by
    intro c hc
    have hall := List.all_eq_true.mp (List.all_takeWhile (p := (· = '/')) (l := text.reverse)) c hc
    simpa using hall
  refine ⟨(text.reverse.takeWhile (· = '/')).length, ?_⟩
  rw [withoutFinalSlashes, ← List.reverse_replicate, ← List.eq_replicate_of_mem hslashes,
    ← List.reverse_append, hcut, List.reverse_reverse]

theorem closed_withoutFinalSlashes {text : List Char} (h : Closed text) :
    Closed (withoutFinalSlashes text) := by
  obtain ⟨n, hn⟩ := exists_slashes text
  rw [hn] at h
  apply h.of_append
  simp

theorem variableNames_withoutFinalSlashes {text : List Char} (h : Closed text) :
    (Template.mk (withoutFinalSlashes text)).variableNames = (Template.mk text).variableNames := by
  obtain ⟨n, hn⟩ := exists_slashes text
  have hslashes : (Template.mk (List.replicate n '/')).variableNames = [] :=
    Template.variableNames_plain (by simp)
  conv => rhs; rw [hn]
  rw [Template.variableNames_append _ (closed_withoutFinalSlashes h), hslashes]
  simp

/-- The template is a child behind a base: the base without the slashes at its end, what stands
between the two, and the child. -/
structure NestsAs (base child : List Char) (t : Template) : Prop where
  expands : ∀ values, t.expand values =
    (Template.mk (withoutFinalSlashes base)).expand values ++
      (slashBefore child ++ (Template.mk child).expand values)
  names : t.variableNames = (Template.mk base).variableNames ++
    (Template.mk child).variableNames.filter (· ∉ (Template.mk base).variableNames)

theorem nest_text {child : List Char} (base : List Char) (hchild : child ≠ []) :
    (Template.mk base).nest child = ⟨withoutFinalSlashes base ++ (slashBefore child ++ child)⟩ := by
  have hsome : child.isEmpty = false := List.isEmpty_eq_false_iff.mpr hchild
  unfold Template.nest
  rcases slashBefore_cases child with hslash | hslash
  · have hglued := (isGlued_iff child).mpr hslash
    simp [hsome, hglued, hslash]
  · have hglued : isGlued child = false := by
      rw [Bool.eq_false_iff, ne_eq, isGlued_iff, hslash]
      simp
    simp [hsome, hglued, hslash]

theorem nestsAs_nest {base child : List Char} (h : Closed base) (hchild : child ≠ []) :
    NestsAs base child ((Template.mk base).nest child) := by
  have hstem := closed_withoutFinalSlashes h
  have hplain : '{' ∉ slashBefore child := by
    rcases slashBefore_cases child with hslash | hslash <;> simp [hslash]
  have hslash : Closed (slashBefore child) := closed_of_plain hplain
  rw [nest_text base hchild]
  constructor
  · intro values
    rw [Template.expand_append _ hstem, Template.expand_append _ hslash, Template.expand_plain hplain]
  · rw [Template.variableNames_append _ hstem, Template.variableNames_append _ hslash,
      Template.variableNames_plain hplain, variableNames_withoutFinalSlashes h]
    simp

theorem operationTemplate_ofList (base : List Char) (uri : String) :
    operationTemplate (String.ofList base) uri =
      if uri = "/" then ⟨if base = [] then ['/'] else base⟩
      else (Template.mk (if base = [] then ['/'] else base)).nest uri.toList := by
  have hbase : Template.ofString (if (String.ofList base).isEmpty then "/" else String.ofList base) =
      ⟨if base = [] then ['/'] else base⟩ := by
    cases base with
    | nil => rfl
    | cons c rest =>
      have hsome : (String.ofList (c :: rest)).isEmpty = false := by simp
      rw [hsome]
      simp [Template.ofString]
  unfold operationTemplate
  rw [hbase]

/-- Texts laid together read as if each stood alone, and so do a base and a child that is nested
in it, be the base a context path and the child the path of an operation. -/
theorem texts_laid_together_expand_one_behind_the_other (base : List Char) (h : Closed base) :
    (∀ more : List Char,
      (∀ values, (Template.mk (base ++ more)).expand values =
        (Template.mk base).expand values ++ (Template.mk more).expand values) ∧
      (Template.mk (base ++ more)).variableNames = (Template.mk base).variableNames ++
        (Template.mk more).variableNames.filter (· ∉ (Template.mk base).variableNames) ∧
      (Template.mk (base ++ more)).variableNames.Nodup) ∧
    (∀ child : List Char, child ≠ [] → NestsAs base child ((Template.mk base).nest child)) ∧
    (∀ uri : String,
      let root := if base = [] then ['/'] else base
      let t := operationTemplate (String.ofList base) uri
      if uri = "/" ∨ uri = "" then t = ⟨root⟩ else NestsAs root uri.toList t) := by
  refine ⟨fun more => ⟨Template.expand_append more h, Template.variableNames_append more h,
    nodup_distinct _⟩, fun child => nestsAs_nest h, ?_⟩
  intro uri root t
  have hroot : Closed root := by
    unfold root
    split
    · exact closed_of_plain (by decide)
    · exact h
  have ht : t = if uri = "/" then Template.mk root else (Template.mk root).nest uri.toList :=
    operationTemplate_ofList base uri
  split
  · rename_i huri
    rcases huri with rfl | rfl
    · exact ht
    · exact ht
  · rename_i huri
    rw [not_or] at huri
    rw [ht, if_neg huri.1]
    apply nestsAs_nest hroot
    simpa using huri.2

/-- A page of the users of a tenant is found behind the context path of the tenant. -/
theorem the_users_of_a_tenant :
    let base := "/api/{tenant}/".toList
    let values : Fields := [("tenant", .string "acme"), ("page", .string "2")]
    let t := operationTemplate (String.ofList base) "users{?page,tenant}"
    Closed base ∧ NestsAs base "users{?page,tenant}".toList t ∧
      t.expand values = "/api/acme/users?page=2&tenant=acme".toList ∧
      t.variableNames = ["tenant", "page"] := by
  intro base values t
  have hclosed : Closed base := by decide
  have hnests : NestsAs base "users{?page,tenant}".toList t :=
    (texts_laid_together_expand_one_behind_the_other base hclosed).2.2 "users{?page,tenant}"
  refine ⟨hclosed, hnests, ?_, ?_⟩
  · rw [hnests.expands]
    decide +kernel
  · rw [hnests.names]
    decide +kernel

/-! ## Nesting twice -/

theorem withoutFinalSlashes_slashes (n : Nat) : withoutFinalSlashes (List.replicate n '/') = [] := by
  simp [withoutFinalSlashes]

theorem withoutFinalSlashes_self (text : List Char) :
    withoutFinalSlashes (withoutFinalSlashes text) = withoutFinalSlashes text := by
  obtain ⟨n, hn⟩ := exists_slashes text
  conv => rhs; rw [hn, withoutFinalSlashes_append, if_pos (withoutFinalSlashes_slashes n)]

theorem withoutFinalSlashes_slashBefore (child : List Char) :
    withoutFinalSlashes (slashBefore child) = [] := by
  rcases slashBefore_cases child with h | h <;> rw [h] <;> rfl

theorem slashBefore_slashed (child : List Char) : slashBefore (slashBefore child ++ child) = [] := by
  rcases slashBefore_cases child with h | h
  · rw [h]
    exact h
  · rw [h]
    rfl

theorem slashBefore_cons {c : Char} (h : c ≠ '{') (rest : List Char) :
    slashBefore (c :: rest) = if c ∈ ['/', '?', '#'] then [] else ['/'] := by
  unfold slashBefore
  split
  all_goals simp_all

/-- What stands before a child is told by its first character, or by the first two of them where
it starts with a brace. -/
theorem slashBefore_append {start : List Char} (rest : List Char) (hsome : start ≠ [])
    (hbrace : start ≠ ['{']) : slashBefore (start ++ rest) = slashBefore start := by
  rcases start with _ | ⟨c, more⟩
  · exact absurd rfl hsome
  · by_cases hc : c = '{'
    · rcases more with _ | ⟨d, more⟩
      · exact absurd (hc ▸ rfl) hbrace
      · rw [hc]
        rfl
    · rw [List.cons_append, slashBefore_cons hc, slashBefore_cons hc]

/-- A child of slashes alone leaves nothing of itself. -/
theorem withoutFinalSlashes_nest (a b : List Char) :
    withoutFinalSlashes ((Template.mk a).nest b).text =
      withoutFinalSlashes a ++
        if withoutFinalSlashes b = [] then [] else slashBefore b ++ withoutFinalSlashes b := by
  by_cases hb : b = []
  · subst hb
    simp [Template.nest, withoutFinalSlashes]
  · rw [nest_text a hb, withoutFinalSlashes_append, withoutFinalSlashes_append (slashBefore b),
      withoutFinalSlashes_slashBefore]
    by_cases hstem : withoutFinalSlashes b = []
    · simp [hstem, withoutFinalSlashes_self]
    · simp [hstem]

theorem nest_assoc {b : List Char} (h : ∀ n, b ≠ '{' :: List.replicate n '/') (a c : List Char) :
    ((Template.mk a).nest b).nest c = (Template.mk a).nest ((Template.mk b).nest c).text := by
  by_cases hc : c = []
  · subst hc
    rfl
  · obtain ⟨n, hn⟩ := exists_slashes b
    have hinner : withoutFinalSlashes b ++ (slashBefore c ++ c) ≠ [] := by simp [hc]
    have houter : ((Template.mk a).nest b).nest c =
        ⟨withoutFinalSlashes ((Template.mk a).nest b).text ++ (slashBefore c ++ c)⟩ := nest_text _ hc
    rw [houter, withoutFinalSlashes_nest, nest_text b hc, nest_text a hinner]
    by_cases hstem : withoutFinalSlashes b = []
    · simp [hstem, slashBefore_slashed]
    · -- the two characters that tell what stands before `b` are not among those cut away
      have hbrace : withoutFinalSlashes b ≠ ['{'] := fun hbrace => h n (by rw [hn, hbrace]; rfl)
      have hslash : slashBefore b = slashBefore (withoutFinalSlashes b) := by
        conv => lhs; rw [hn, slashBefore_append _ hstem hbrace]
      rw [slashBefore_append _ hstem hbrace, hslash]
      simp [hstem]

/-- Of two children that are laid behind a base, either one may be nested first, if the one
between leaves no brace open. -/
theorem of_two_nestings_either_may_come_first {b : List Char} (h : Closed b) (a c : List Char) :
    ((Template.mk a).nest b).nest c = (Template.mk a).nest ((Template.mk b).nest c).text := by
  apply nest_assoc
  rintro n rfl
  simpa using h [] _ rfl

/-- Slashes alone vanish between a base and a child. -/
theorem slashes_vanish_between_two_templates :
    Closed "//".toList ∧
      ((Template.ofString "/api/").nest "//".toList).nest "users{?page}".toList =
        (Template.ofString "/api/").nest ((Template.ofString "//").nest "users{?page}".toList).text ∧
      ((Template.ofString "//").nest "users{?page}".toList).text = "/users{?page}".toList ∧
      (((Template.ofString "/api/").nest "//".toList).nest "users{?page}".toList).text =
        "/api/users{?page}".toList := by
  have hclosed : Closed "//".toList := by decide
  refine ⟨hclosed, ?_, by decide, by decide⟩
  exact of_two_nestings_either_may_come_first hclosed "/api/".toList "users{?page}".toList

end HttpCalls
