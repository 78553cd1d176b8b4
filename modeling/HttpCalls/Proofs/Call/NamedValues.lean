-- What the URI depends on. A template takes the values of its own variables and no others, and of
-- these it takes a value for absent that has no scalar to write. So no entry and no parameter
-- changes the URI that no variable is named after.
import HttpCalls.Proofs.Call.RequestParts

namespace HttpCalls

/-! ## Values that count as absent -/

def Json.isScalar : Json → Bool
  | .string _ | .number _ | .bool _ => true
  | _ => false

/-- `null`, and a list or an object without a scalar member. -/
def Json.isBlank : Json → Bool
  | .null => true
  | .array items => items.all (!·.isScalar)
  | .object fields => fields.all (!·.2.isScalar)
  | _ => false

theorem scalarText?_eq_none (value : Json) : value.scalarText? = none ↔ value.isScalar = false := by
  cases value with
  | bool b => cases b <;> simp [Json.scalarText?, Json.isScalar]
  | _ => simp [Json.scalarText?, Json.isScalar]

theorem scalarEntries_eq_nil (fields : Fields) :
    scalarEntries fields = [] ↔ fields.all (!·.2.isScalar) = true := by
  unfold scalarEntries
  rw [List.filterMap_eq_nil_iff, List.all_eq_true]
  apply forall₂_congr
  intro entry _
  rw [Option.map_eq_none_iff, scalarText?_eq_none, Bool.not_eq_true']

theorem meaning?_eq_none (value : Json) : value.meaning? = none ↔ value.isBlank = true := by
  cases value with
  | null => exact iff_of_true rfl rfl
  | bool b => cases b <;> exact iff_of_false (by simp [Json.meaning?, Json.scalarText?]) (by decide)
  | number n => simp [Json.meaning?, Json.scalarText?, Json.isBlank]
  | string s => simp [Json.meaning?, Json.scalarText?, Json.isBlank]
  | array items => simp [Json.meaning?, Json.isBlank, scalarText?_eq_none]
  | object fields =>
    have hnone := scalarEntries_eq_nil fields
    by_cases hpairs : scalarEntries fields = []
    · exact iff_of_true (if_pos hpairs) (hnone.mp hpairs)
    · exact iff_of_false (by simp [Json.meaning?, hpairs]) (mt hnone.mpr hpairs)

/-- The value under a name, unless it counts as absent. -/
def Fields.present? (values : Fields) (name : String) : Option Json :=
  (values.value? name).filter (!·.isBlank)

theorem bind_present? (values : Fields) (name : String) :
    (values.present? name).bind Json.meaning? = values.meaning? name := by
  unfold Fields.present? Fields.meaning?
  cases values.value? name with
  | none => rfl
  | some value =>
    cases hblank : value.isBlank with
    | true => simp [hblank, (meaning?_eq_none value).mpr hblank]
    | false => rw [Option.filter_some, if_pos (by simp [hblank])]

theorem expand_congr_of_present {t : Template} {values others : Fields}
    (h : ∀ name ∈ t.variableNames, values.present? name = others.present? name) :
    t.expand values = t.expand others := by
  apply Template.expand_congr_of_meanings
  intro name hname
  rw [← bind_present?, ← bind_present?, h name hname]

/-! ## Entries that no variable is named after -/

/-- The entries that a variable of the template is named after. -/
def Template.named (t : Template) (entries : List (String × Json)) : List (String × Json) :=
  entries.filter (·.1 ∈ t.variableNames)

theorem value?_named {t : Template} {name : String} (h : name ∈ t.variableNames)
    (values : Fields) : Fields.value? (t.named values) name = values.value? name := by
  unfold Template.named
  induction values with
  | nil => rfl
  | cons f rest ih =>
    obtain ⟨k, v⟩ := f
    by_cases hk : k = name
    · subst hk
      rw [List.filter_cons_of_pos (by simpa using h), Fields.value?, Fields.value?, if_pos rfl,
        if_pos rfl]
    · rw [Fields.value?, if_neg hk, ← ih, List.filter_cons]
      split
      · rw [Fields.value?, if_neg hk]
      · rfl

theorem expand_congr_of_named {t : Template} {values others : Fields}
    (hnodup : (Fields.names values).Nodup) (h : (t.named values).Perm (t.named others)) :
    t.expand values = t.expand others := by
  have hnamed : (Fields.names (t.named values)).Nodup :=
    hnodup.sublist (List.filter_sublist.map _)
  apply Template.expand_congr
  intro name hname
  rw [← value?_named hname values, ← value?_named hname others]
  exact Fields.value?_perm h hnamed name

/-! ## Parameters that no variable is named after -/

theorem lastUnder?_named {t : Template} {name : String} (h : name ∈ t.variableNames)
    (entries : List (String × Json)) : lastUnder? (t.named entries) name = lastUnder? entries name := by
  unfold lastUnder? Template.named
  rw [List.filter_filter]
  congr 2
  apply List.filter_congr
  intro e _
  by_cases he : e.1 = name
  · simp [he, h]
  · simp [he]

/-- The parameters that are the body, and those that a variable of the template is named after. -/
def Template.namedParams (t : Template) (params : List Param) : List Param :=
  params.filter fun p => p.isBody ∨ p.name ∈ t.variableNames

theorem uriEntries_namedParams (t : Template) (params : List Param) :
    uriEntries (t.namedParams params) = t.named (uriEntries params) := by
  unfold uriEntries Template.namedParams Template.named
  rw [List.filter_map, List.filter_filter, List.filter_filter]
  congr 1
  apply List.filter_congr
  intro p _
  by_cases hrole : p.role = .implicit ∨ p.role = .path
  · have hbody : p.isBody = false := by
      unfold Param.isBody
      rcases hrole with h | h <;> rw [h]
    rw [Bool.eq_iff_iff]
    simp only [Function.comp_apply, Bool.and_eq_true, decide_eq_true_eq]
    simp [hrole, hbody, Param.entry]
  · simp [hrole]

theorem firstBody_or_noBody (params : List Param) :
    NoBody params ∨ ∃ kind value, FirstBody params kind value := by
  induction params with
  | nil => exact .inl fun p hp => absurd hp (List.not_mem_nil)
  | cons p more ih =>
    obtain ⟨name, role, value⟩ := p
    have hskip (hrole : ∀ kind, role ≠ .body kind) :
        NoBody (⟨name, role, value⟩ :: more) ∨
          ∃ kind value', FirstBody (⟨name, role, value⟩ :: more) kind value' := by
      rcases ih with hmore | ⟨kind, value', early, name', late, rfl, hearly⟩
      · exact .inl (List.forall_mem_cons.mpr ⟨hrole, hmore⟩)
      · exact .inr ⟨kind, value', _ :: early, name', late, rfl, List.forall_mem_cons.mpr ⟨hrole, hearly⟩⟩
    cases role with
    | body kind => exact .inr ⟨kind, value, [], name, more, rfl, fun p hp => absurd hp List.not_mem_nil⟩
    | implicit => exact hskip (by simp)
    | path => exact hskip (by simp)
    | header explicit => exact hskip (by simp)

theorem NoBody.namedParams {params : List Param} (h : NoBody params) (t : Template) :
    NoBody (t.namedParams params) :=
  fun p hp => h p (List.mem_filter.mp hp).1

theorem FirstBody.namedParams {params : List Param} {kind : BodyKind} {value : Json}
    (h : FirstBody params kind value) (t : Template) :
    FirstBody (t.namedParams params) kind value := by
  obtain ⟨early, name, late, rfl, hearly⟩ := h
  refine ⟨t.namedParams early, name, t.namedParams late, ?_, hearly.namedParams t⟩
  unfold Template.namedParams
  rw [List.filter_append, List.filter_cons_of_pos (by simp [Param.isBody])]

theorem expand_merged_named (t : Template) (entries more : List (String × Json)) :
    t.expand (merged (t.named entries ++ more)) = t.expand (merged (entries ++ more)) := by
  apply Template.expand_congr
  intro name hname
  rw [value?_merged, value?_merged, lastUnder?_append, lastUnder?_append, lastUnder?_named hname]

theorem allPresent_named (t : Template) (entries : List (String × Json)) :
    AllPresent (t.named entries) t.variableNames ↔ AllPresent entries t.variableNames := by
  apply forall₂_congr
  intro name hname
  rw [lastUnder?_named hname]

theorem build_namedParams (t : Template) (method : Method) (params : List Param) :
    (Request.build t method (t.namedParams params)).uri = (Request.build t method params).uri := by
  have halone := expand_merged_named t (uriEntries params) []
  rw [List.append_nil, List.append_nil, ← uriEntries_namedParams] at halone
  cases hmethod : method.permitsBody with
  | false => rw [(build_unpermitted t hmethod).1, (build_unpermitted t hmethod).1, halone]
  | true =>
    rcases firstBody_or_noBody params with h | ⟨kind, value, h⟩
    · rw [(build_noBody t hmethod h).1, (build_noBody t hmethod (h.namedParams t)).1, halone]
    · have hall := allPresent_named t (uriEntries params)
      rw [← satisfies_iff, ← satisfies_iff, ← Bool.eq_iff_iff, ← uriEntries_namedParams] at hall
      rw [(build_firstBody t hmethod h).2, (build_firstBody t hmethod (h.namedParams t)).2, hall]
      split
      · exact halone
      · rw [uriEntries_namedParams, expand_merged_named]

/-- An expansion depends on the values of the variables of its template that are present, in
whatever order they come, and so does the URI of a request. -/
theorem the_uri_depends_on_the_named_values_alone (t : Template) :
    (∀ values others : Fields,
      (∀ name ∈ t.variableNames, values.present? name = others.present? name) →
        t.expand values = t.expand others) ∧
    (∀ values others : Fields, (Fields.names values).Nodup →
      (t.named values).Perm (t.named others) → t.expand values = t.expand others) ∧
    (∀ method params, (Request.build t method params).uri =
      (Request.build t method (t.namedParams params)).uri) :=
  ⟨fun _ _ => expand_congr_of_present, fun _ _ => expand_congr_of_named,
    fun method params => (build_namedParams t method params).symm⟩

/-- Blank values, and a flag that no variable is named after, leave the URI as it is. -/
theorem a_flag_beside_the_variables_of_a_search :
    let t := Template.ofString "/users/{id}{?tags*,filter}"
    let id : Json := .string "7"
    let tags : Json := .array [.string "a", .null]
    let blanks : Fields := [("id", id), ("tags", .array []), ("filter", .object [("deep", .array [])])]
    let nulls : Fields := [("filter", .null), ("debug", .string "&id=8"), ("id", id)]
    let flagged : Fields := [("debug", .bool true), ("id", id), ("tags", tags)]
    let turned : Fields := [("tags", tags), ("verbose", .string "?"), ("id", id)]
    (∀ name ∈ t.variableNames, blanks.present? name = nulls.present? name) ∧
      t.expand blanks = t.expand nulls ∧ t.expand nulls = "/users/7".toList ∧
      (Fields.names flagged).Nodup ∧ (t.named flagged).Perm (t.named turned) ∧
      t.expand flagged = t.expand turned ∧ t.expand turned = "/users/7?tags=a".toList := by
  intro t id tags blanks nulls flagged turned
  have hnames : t.variableNames = ["id", "tags", "filter"] := by decide +kernel
  have hpresent : ∀ name ∈ t.variableNames, blanks.present? name = nulls.present? name := by
    rw [hnames]
    decide
  have hperm : (t.named flagged).Perm (t.named turned) := by
    unfold Template.named
    rw [hnames]
    decide
  obtain ⟨hagree, hedited, -⟩ := the_uri_depends_on_the_named_values_alone t
  exact ⟨hpresent, hagree blanks nulls hpresent, by decide +kernel, by decide, hperm,
    hedited flagged turned (by decide) hperm, by decide +kernel⟩

end HttpCalls
