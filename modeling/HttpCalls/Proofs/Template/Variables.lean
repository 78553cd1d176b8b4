-- The names of the variables of a template. Each stands once in the list of a template,
-- and what the template expands to depends on the meanings of the values under these names alone.
import HttpCalls.Proofs.Template.Meanings

namespace HttpCalls

/-! ## Distinct names -/

@[simp]
theorem mem_distinct (name : String) (names : List String) :
    name ∈ distinct names ↔ name ∈ names := by
  induction names with
  | nil => simp [distinct]
  | cons first more ih =>
    rw [distinct, List.mem_cons, List.mem_cons, List.mem_filter, ih]
    by_cases h : name = first
    · simp [h]
    · simp [h]

theorem nodup_distinct (names : List String) : (distinct names).Nodup := by
  induction names with
  | nil => exact List.nodup_nil
  | cons first more ih =>
    rw [distinct, List.nodup_cons]
    exact ⟨by simp, ih.filter _⟩

theorem distinct_append (a b : List String) :
    distinct (a ++ b) = distinct a ++ (distinct b).filter (· ∉ distinct a) := by
  induction a with
  | nil => exact (List.filter_eq_self.mpr fun name _ => by simp [distinct]).symm
  | cons name more ih =>
    rw [List.cons_append, distinct, ih, List.filter_append, List.filter_filter, distinct,
      List.cons_append]
    have hsame : ∀ other ∈ distinct b,
        (decide (other ≠ name) && decide (other ∉ distinct more)) =
          decide (other ∉ name :: (distinct more).filter (· ≠ name)) := by
      intro other _
      by_cases h : other = name
      · simp [h]
      · simp [h]
    rw [List.filter_congr hsame]

theorem mem_variableNames {t : Template} {name : String} :
    name ∈ t.variableNames ↔ ∃ part ∈ t.parts, ∃ v ∈ part.vars, v.name = name := by
  rw [Template.variableNames, mem_distinct, List.mem_flatMap]
  simp only [List.mem_map]

/-- What stands under a name, to an expression. -/
def Fields.meaning? (values : Fields) (name : String) : Option Meaning :=
  (values.value? name).bind Json.meaning?

section
variable {values others : Fields}

theorem Expression.meanings_congr {e : Expression}
    (h : ∀ v ∈ e.vars, values.meaning? v.name = others.meaning? v.name) :
    e.meanings values = e.meanings others := by
  unfold Expression.meanings
  generalize e.vars = vars at h ⊢
  induction vars with
  | nil => rfl
  | cons v more ih =>
    have hfirst : (values.value? v.name).bind Json.meaning? =
        (others.value? v.name).bind Json.meaning? := h v List.mem_cons_self
    have hmore := ih fun w hw => h w (List.mem_cons_of_mem _ hw)
    rw [List.filterMap_cons, List.filterMap_cons, hfirst, hmore]

theorem Expression.expand_congr {e : Expression}
    (h : ∀ v ∈ e.vars, values.meaning? v.name = others.meaning? v.name) :
    e.expand values = e.expand others := by
  rw [Expression.expand_eq, Expression.expand_eq, Expression.meanings_congr h]

theorem Part.expand_congr {part : Part}
    (h : ∀ v ∈ part.vars, values.meaning? v.name = others.meaning? v.name) :
    part.expand values = part.expand others := by
  cases part with
  | literal text => rfl
  | expression e => exact Expression.expand_congr h

/-- Values that mean the same under the variables of a template expand it to the same text. -/
theorem Template.expand_congr_of_meanings {t : Template}
    (h : ∀ name ∈ t.variableNames, values.meaning? name = others.meaning? name) :
    t.expand values = t.expand others := by
  have hparts : t.parts.map (Part.expand values) = t.parts.map (Part.expand others) := by
    apply List.map_congr_left
    intro part hpart
    apply Part.expand_congr
    intro v hv
    exact h v.name (mem_variableNames.mpr ⟨part, hpart, v, hv, rfl⟩)
  rw [Template.expand, Template.expand, List.flatMap_def, List.flatMap_def, hparts]

theorem Template.expand_congr {t : Template}
    (h : ∀ name ∈ t.variableNames, values.value? name = others.value? name) :
    t.expand values = t.expand others := by
  apply Template.expand_congr_of_meanings
  intro name hname
  rw [Fields.meaning?, Fields.meaning?, h name hname]

end

end HttpCalls
