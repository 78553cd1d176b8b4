-- Texts joined by a separator, and cut at it again. Texts that do not hold the separator are
-- found again as they were; texts joined in groups are joined as if there were no groups.
import HttpCalls.Text.Pieces

namespace HttpCalls.Text

/-! ## Joining -/

theorem joined_cons {sep text : List Char} {more : List (List Char)} (h : more ≠ []) :
    joined sep (text :: more) = text ++ sep ++ joined sep more := by
  cases more with
  | nil => exact absurd rfl h
  | cons next more => rfl

theorem joined_append {sep : List Char} {a b : List (List Char)} (ha : a ≠ []) (hb : b ≠ []) :
    joined sep (a ++ b) = joined sep a ++ sep ++ joined sep b := by
  induction a with
  | nil => exact absurd rfl ha
  | cons text more ih =>
    rw [List.cons_append]
    cases more with
    | nil => exact joined_cons hb
    | cons next more =>
      have hmore : next :: more ≠ [] := List.cons_ne_nil _ _
      rw [joined_cons (List.append_ne_nil_of_left_ne_nil hmore b), ih hmore, joined_cons hmore]
      simp only [List.append_assoc]

/-- Groups of texts, each joined and then all joined, are their texts joined. -/
theorem joined_map_joined {sep : List Char} {groups : List (List (List Char))} (h : [] ∉ groups) :
    joined sep (groups.map (joined sep)) = joined sep groups.flatten := by
  induction groups with
  | nil => rfl
  | cons group more ih =>
    rw [List.mem_cons, not_or] at h
    have hgroup : group ≠ [] := Ne.symm h.1
    rw [List.map_cons, List.flatten_cons]
    cases more with
    | nil => simp [joined]
    | cons next more =>
      have hflat : (next :: more).flatten ≠ [] := by
        have hnext : next ≠ [] := fun hnil => h.2 (by simp [hnil])
        rw [List.flatten_cons]
        exact List.append_ne_nil_of_left_ne_nil hnext _
      rw [joined_cons (by simp), ih h.2, joined_append hgroup hflat]

theorem forall_mem_joined {p : Char → Prop} {sep : List Char} {texts : List (List Char)}
    (hsep : ∀ c ∈ sep, p c) (h : ∀ text ∈ texts, ∀ c ∈ text, p c) : ∀ c ∈ joined sep texts, p c := by
  induction texts with
  | nil => simp [joined]
  | cons text more ih =>
    have htext := h text List.mem_cons_self
    have hmore := ih fun t ht => h t (List.mem_cons_of_mem _ ht)
    cases more with
    | nil => exact htext
    | cons next more =>
      rw [joined_cons (List.cons_ne_nil _ _)]
      intro c hc
      simp only [List.mem_append] at hc
      rcases hc with (hc | hc) | hc
      · exact htext c hc
      · exact hsep c hc
      · exact hmore c hc

theorem joined_eq (sep text : List Char) (more : List (List Char)) :
    joined sep (text :: more) = text ++ more.flatMap fun next => sep ++ next := by
  induction more generalizing text with
  | nil => simp [joined]
  | cons next more ih =>
    rw [joined_cons (List.cons_ne_nil _ _), ih, List.flatMap_cons]
    simp only [List.append_assoc]

theorem joined_ne_nil {sep : List Char} {texts : List (List Char)} (hsome : texts ≠ [])
    (h : [] ∉ texts) : joined sep texts ≠ [] := by
  cases texts with
  | nil => exact absurd rfl hsome
  | cons text more =>
    have htext : text ≠ [] := fun hnil => h (hnil ▸ List.mem_cons_self)
    cases more with
    | nil => exact htext
    | cons next more =>
      rw [joined_cons (List.cons_ne_nil _ _), List.append_assoc]
      exact List.append_ne_nil_of_left_ne_nil htext _

/-! ## Cutting -/

theorem pieces_of_notMem {sep : Char} {text : List Char} (h : sep ∉ text) :
    pieces sep text = [text] := by
  induction text with
  | nil => rfl
  | cons c rest ih =>
    rw [List.mem_cons, not_or] at h
    rw [pieces, if_neg (Ne.symm h.1), ih h.2]

theorem pieces_append {sep : Char} {piece : List Char} (rest : List Char) (h : sep ∉ piece) :
    pieces sep (piece ++ sep :: rest) = piece :: pieces sep rest := by
  induction piece with
  | nil => simp [pieces]
  | cons c more ih =>
    rw [List.mem_cons, not_or] at h
    rw [List.cons_append, pieces, if_neg (Ne.symm h.1), ih h.2]

/-- Texts without the separator are read back from their join. -/
theorem pieces_joined {sep : Char} {texts : List (List Char)} (hne : texts ≠ [])
    (h : ∀ text ∈ texts, sep ∉ text) : pieces sep (joined [sep] texts) = texts := by
  induction texts with
  | nil => exact absurd rfl hne
  | cons text more ih =>
    have htext := h text List.mem_cons_self
    cases more with
    | nil => exact pieces_of_notMem htext
    | cons next more =>
      have hmore := ih (List.cons_ne_nil _ _) fun t ht => h t (List.mem_cons_of_mem _ ht)
      rw [joined_cons (List.cons_ne_nil _ _), List.append_assoc, List.singleton_append,
        pieces_append _ htext, hmore]

theorem cut?_append_sep {sep : Char} {before : List Char} (after : List Char) (h : sep ∉ before) :
    cut? sep (before ++ sep :: after) = some (before, after) := by
  induction before with
  | nil => simp [cut?]
  | cons c rest ih =>
    rw [List.mem_cons, not_or] at h
    rw [List.cons_append, cut?, if_neg (Ne.symm h.1), ih h.2]
    rfl

/-- Texts are parted at the same place if the separator is not in what stands before it. -/
theorem append_sep_inj {sep : Char} {a a' b b' : List Char} (ha : sep ∉ a) (ha' : sep ∉ a')
    (h : a ++ sep :: b = a' ++ sep :: b') : a = a' ∧ b = b' := by
  have hcut := cut?_append_sep b ha
  rw [h, cut?_append_sep b' ha', Option.some.injEq, Prod.mk.injEq] at hcut
  exact ⟨hcut.1.symm, hcut.2.symm⟩

theorem cut?_append {sep : Char} {a b before after : List Char} (h : cut? sep a = some (before, after)) :
    cut? sep (a ++ b) = some (before, after ++ b) := by
  induction a generalizing before after with
  | nil => cases h
  | cons c rest ih =>
    unfold cut? at h ⊢
    by_cases hc : c = sep
    · simp only [hc, if_true, Option.some.injEq, Prod.mk.injEq] at h
      obtain ⟨rfl, rfl⟩ := h
      simp [hc]
    · rw [if_neg hc] at h
      obtain ⟨⟨b', a'⟩, hcut, hparts⟩ := Option.map_eq_some_iff.mp h
      simp only [Prod.mk.injEq] at hparts
      obtain ⟨rfl, rfl⟩ := hparts
      simp [hc, ih hcut]

theorem cut?_append_of_notMem {sep : Char} {a : List Char} (b : List Char) (h : sep ∉ a) :
    cut? sep (a ++ b) = (cut? sep b).map fun (before, after) => (a ++ before, after) := by
  induction a with
  | nil => simp
  | cons c rest ih =>
    simp only [List.mem_cons, not_or] at h
    rw [List.cons_append, cut?, if_neg (Ne.symm h.1), ih h.2, Option.map_map]
    rfl

theorem dropStart?_append (start text : List Char) : dropStart? start (start ++ text) = some text := by
  induction start with
  | nil => rfl
  | cons c rest ih =>
    rw [List.cons_append, dropStart?, if_pos rfl, ih]

theorem dropStart?_eq_some {start text rest : List Char} (h : dropStart? start text = some rest) :
    text = start ++ rest := by
  fun_induction dropStart? start text with
  | case1 => exact Option.some.inj h
  | case2 => cases h
  | case3 start c text ih => exact congrArg (c :: ·) (ih h)
  | case4 => cases h

end HttpCalls.Text
