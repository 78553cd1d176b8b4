-- Where the parameters of a call go. A parameter whose use is left open is a variable of the
-- URI or a field of the body, never both. A body that is given takes the place of these
-- fields, and its own fields help out where a variable of the URI has no value.
import HttpCalls.Call.Request
import HttpCalls.Proofs.Json.FieldMaps

namespace HttpCalls

/-! ## The parts of a request -/

/-- A parameter under its name. -/
def Param.entry (p : Param) : String × Json := (p.name, p.value)

/-- What the implicit parameters and those for the path give to the URI. -/
def uriEntries (params : List Param) : List (String × Json) :=
  (params.filter fun p => p.role = .implicit ∨ p.role = .path).map Param.entry

/-- The implicit parameters that no variable is named after. -/
def openEntries (names : List String) (params : List Param) : List (String × Json) :=
  (params.filter fun p => p.role = .implicit ∧ p.name ∉ names).map Param.entry

/-- No parameter is the body. -/
def NoBody (params : List Param) : Prop := ∀ p ∈ params, ∀ kind, p.role ≠ .body kind

/-- The first parameter that is the body has this kind and this value. -/
def FirstBody (params : List Param) (kind : BodyKind) (value : Json) : Prop :=
  ∃ early name late, params = early ++ ⟨name, .body kind, value⟩ :: late ∧ NoBody early

/-- The body that a parameter of a kind sends. -/
def sentBody : BodyKind → Json → Option RequestBody
  | _, .null => none
  | .mapping, .object entries => some (.fields entries)
  | _, value => some (.object value)

/-- The values of a body that override those of the URI: all entries of a mapping, those of
a structured object that are not null, and none of another value. -/
def overriding : BodyKind → Json → List (String × Json)
  | .mapping, .object entries => entries
  | .structured, .object entries => entries.filter fun e => e.2 ≠ .null
  | _, _ => []

/-- Every name has a value other than null. -/
def AllPresent (entries : List (String × Json)) (names : List String) : Prop :=
  ∀ name ∈ names, ∃ value, lastUnder? entries name = some value ∧ value ≠ .null

/-- How a request comes from a template, a method and parameters. -/
structure PartedAsDescribed (template : Template) (method : Method) (params : List Param)
    (r : Request) : Prop where
  /-- A method without a body sends none. -/
  unpermitted : method.permitsBody = false →
    r.uri = template.expand (merged (uriEntries params)) ∧ r.body = none
  /-- Without a body parameter, what the URI does not name is sent as fields. -/
  aggregated : method.permitsBody = true → NoBody params →
    r.uri = template.expand (merged (uriEntries params)) ∧
    r.body = (if openEntries template.variableNames params = [] then none
      else some (.fields (merged (openEntries template.variableNames params)))) ∧
    ∀ p ∈ params, p.role = .implicit →
      (p.name ∈ template.variableNames ↔
        ¬∃ fields, r.body = some (.fields fields) ∧ p.name ∈ Fields.names fields)
  /-- The first body parameter alone is the body, and its fields override the values of the
  URI where a variable lacks one. -/
  explicit : method.permitsBody = true → ∀ kind value, FirstBody params kind value →
    r.body = sentBody kind value ∧
    (AllPresent (uriEntries params) template.variableNames →
      r.uri = template.expand (merged (uriEntries params))) ∧
    (¬AllPresent (uriEntries params) template.variableNames →
      r.uri = template.expand (merged (uriEntries params ++ overriding kind value)))

/-! ## Bodies -/

theorem Json.isNull_iff (v : Json) : v.isNull = true ↔ v = .null := by
  cases v <;> simp [Json.isNull]

theorem sent_ofParam (kind : BodyKind) (value : Json) :
    (some (RequestBody.ofParam kind value)).filter (!·.isNull) = sentBody kind value := by
  cases kind <;> cases value <;> rfl

theorem substitutes_ofParam (kind : BodyKind) (value : Json) :
    (RequestBody.ofParam kind value).substitutes = overriding kind value := by
  have hfilter (entries : Fields) : entries.filter (fun e => !e.2.isNull) =
      entries.filter fun e => e.2 ≠ .null := by
    apply List.filter_congr
    intro e he
    rw [Bool.eq_iff_iff, Bool.not_eq_true', ← Bool.not_eq_true, Json.isNull_iff, decide_eq_true_iff]
  cases kind with
  | mapping => cases value <;> rfl
  | structured =>
    cases value with
    | object entries => exact hfilter entries
    | _ => rfl

theorem Param.isBody_eq_false {p : Param} (h : ∀ kind, p.role ≠ .body kind) : p.isBody = false := by
  unfold Param.isBody
  split
  · rename_i kind hkind
    exact absurd hkind (h kind)
  · rfl

theorem bodyOf_eq_none {params : List Param} (h : NoBody params) : bodyOf params = none := by
  rw [bodyOf, List.findSome?_eq_none_iff]
  intro p hp
  split
  · rename_i kind hkind
    exact absurd hkind (h p hp kind)
  · rfl

theorem bodyOf_eq_some {params : List Param} {kind : BodyKind} {value : Json}
    (h : FirstBody params kind value) : bodyOf params = some (.ofParam kind value) := by
  obtain ⟨early, name, late, rfl, hearly⟩ := h
  have hnone := bodyOf_eq_none hearly
  rw [bodyOf] at hnone ⊢
  rw [List.findSome?_append, hnone]
  rfl

theorem beforeBody_of_noBody {params : List Param} (h : NoBody params) :
    beforeBody params = params := by
  have hall : ∀ p ∈ params, (!p.isBody) = true := by
    intro p hp
    rw [Param.isBody_eq_false (h p hp)]
    rfl
  have htake : (params ++ []).takeWhile (!·.isBody) = params ++ [] :=
    List.takeWhile_append_of_pos hall
  rwa [List.append_nil] at htake

/-! ## Values -/

theorem uriValues_eq (params : List Param) : uriValues params = merged (uriEntries params) := by
  rw [uriValues, ofList_eq_merged, uriEntries]
  congr 2
  apply List.filter_congr
  intro p hp
  simp [Param.isUriValue]

theorem fieldsOf_eq (names : List String) {params : List Param} (h : NoBody params) :
    fieldsOf names params = merged (openEntries names params) := by
  rw [fieldsOf, ofList_eq_merged, openEntries, beforeBody_of_noBody h]
  congr 2
  apply List.filter_congr
  intro p hp
  simp

theorem merged_eq_nil {entries : List (String × Json)} : merged entries = [] ↔ entries = [] := by
  constructor
  · intro h
    have hnames := names_merged entries
    rw [h] at hnames
    rw [← List.map_eq_nil_iff, List.eq_nil_iff_forall_not_mem]
    intro name
    rw [← mem_distinct, ← hnames]
    exact List.not_mem_nil
  · rintro rfl
    rfl

theorem satisfies_iff (entries : List (String × Json)) (names : List String) :
    satisfies (merged entries) names = true ↔ AllPresent entries names := by
  rw [satisfies, List.all_eq_true, AllPresent]
  apply forall_congr'
  intro name
  apply imp_congr_right
  intro hname
  rw [value?_merged]
  cases lastUnder? entries name with
  | none => simp
  | some v => simp [← Json.isNull_iff]

theorem mem_openEntries {names : List String} {params : List Param} {name : String} :
    name ∈ Fields.names (merged (openEntries names params)) ↔
      name ∉ names ∧ ∃ p ∈ params, p.role = .implicit ∧ p.name = name := by
  rw [mem_names_merged, openEntries, List.map_map, List.mem_map]
  simp only [List.mem_filter, decide_eq_true_eq, Function.comp_apply, Param.entry]
  constructor
  · rintro ⟨p, ⟨hp, hrole, hnot⟩, rfl⟩
    exact ⟨hnot, p, hp, hrole, rfl⟩
  · rintro ⟨hnot, p, hp, hrole, rfl⟩
    exact ⟨p, ⟨hp, hrole, hnot⟩, rfl⟩

/-- Fields that no variable is named after do not change the URI. -/
theorem expand_openEntries (template : Template) (params : List Param) (values : Fields) :
    template.expand (allValues template.variableNames values
      (some (.fields (merged (openEntries template.variableNames params))))) =
      template.expand values := by
  rw [allValues]
  split
  · rfl
  · apply Template.expand_congr
    intro name hname
    have hnone : lastUnder? (merged (openEntries template.variableNames params)) name = none := by
      rw [lastUnder?_eq_none]
      intro hmem
      exact (mem_openEntries.mp hmem).1 hname
    rw [RequestBody.substitutes, Fields.value?_putAll, hnone, Option.none_or]

/-! ## The request -/

section
variable (template : Template) {method : Method} {params : List Param}

theorem build_unpermitted (hmethod : method.permitsBody = false) :
    (Request.build template method params).uri = template.expand (merged (uriEntries params)) ∧
      (Request.build template method params).body = none := by
  rw [Request.build, hmethod, uriValues_eq]
  exact ⟨rfl, rfl⟩

theorem build_noBody (hmethod : method.permitsBody = true) (h : NoBody params) :
    (Request.build template method params).uri = template.expand (merged (uriEntries params)) ∧
      (Request.build template method params).body =
        if openEntries template.variableNames params = [] then none
        else some (.fields (merged (openEntries template.variableNames params))) := by
  have hbody : requestBody template.variableNames params =
      if openEntries template.variableNames params = [] then none
      else some (.fields (merged (openEntries template.variableNames params))) := by
    rw [requestBody, bodyOf_eq_none h, fieldsOf_eq _ h]
    simp only [List.isEmpty_iff, merged_eq_nil]
  rw [Request.build, hmethod, uriValues_eq, hbody]
  by_cases hopen : openEntries template.variableNames params = []
  · simp only [hopen, if_true]
    exact ⟨rfl, rfl⟩
  · simp only [hopen, if_false]
    exact ⟨expand_openEntries template params _, rfl⟩

theorem build_firstBody {kind : BodyKind} {value : Json} (hmethod : method.permitsBody = true)
    (h : FirstBody params kind value) :
    (Request.build template method params).body = sentBody kind value ∧
      (Request.build template method params).uri =
        template.expand
          (if satisfies (merged (uriEntries params)) template.variableNames
            then merged (uriEntries params)
            else merged (uriEntries params ++ overriding kind value)) := by
  have hbody : requestBody template.variableNames params = some (.ofParam kind value) := by
    rw [requestBody, bodyOf_eq_some h]
  rw [Request.build, hmethod, uriValues_eq, hbody]
  refine ⟨sent_ofParam kind value, ?_⟩
  simp only [Bool.not_true, Bool.false_eq_true, if_false, allValues]
  rw [substitutes_ofParam, putAll_merged]

end

/-- Every request is parted as described. -/
theorem every_parameter_has_one_place (template : Template) (method : Method)
    (params : List Param) :
    PartedAsDescribed template method params (Request.build template method params) := by
  constructor
  · exact build_unpermitted template
  · intro hmethod h
    obtain ⟨huri, hbody⟩ := build_noBody template hmethod h
    refine ⟨huri, hbody, ?_⟩
    intro p hp hrole
    rw [hbody]
    constructor
    · rintro hname ⟨fields, hfields, hmem⟩
      split at hfields
      · cases hfields
      · cases hfields
        exact (mem_openEntries.mp hmem).1 hname
    · intro hnone
      apply Decidable.byContradiction
      intro hname
      have hmem := mem_openEntries.mpr ⟨hname, p, hp, hrole, rfl⟩
      have hopen : openEntries template.variableNames params ≠ [] := by
        intro hnil
        rw [hnil] at hmem
        cases hmem
      rw [if_neg hopen] at hnone
      exact hnone ⟨_, rfl, hmem⟩
  · intro hmethod kind value h
    obtain ⟨hbody, huri⟩ := build_firstBody template hmethod h
    refine ⟨hbody, ?_, ?_⟩
    · intro hall
      rw [huri, if_pos ((satisfies_iff _ _).mpr hall)]
    · intro hmissing
      rw [huri, if_neg (mt (satisfies_iff _ _).mp hmissing)]

/-- A user is saved under the number in the body, where no other is given. -/
theorem a_body_gives_a_variable_its_value :
    let template := Template.ofString "/users/{id}"
    let post : Method := ⟨"POST".toList, by decide⟩
    let user : Fields := [("id", .string "7"), ("name", .string "Ann")]
    let params : List Param := [⟨"id", .implicit, .null⟩, ⟨"user", .body .mapping, .object user⟩]
    let r := Request.build template post params
    r.body = some (.fields user) ∧ r.uri = "/users/7".toList := by
  intro template post user params r
  have hfirst : FirstBody params .mapping (.object user) :=
    ⟨[⟨"id", .implicit, .null⟩], "user", [], rfl, by simp [NoBody]⟩
  obtain ⟨hbody, -, huri⟩ :=
    (every_parameter_has_one_place template post params).explicit (by decide) _ _ hfirst
  refine ⟨hbody, (huri ?_).trans (by decide +kernel)⟩
  intro hall
  obtain ⟨value, hvalue, hne⟩ := hall "id" (by decide +kernel)
  have hnull : lastUnder? (uriEntries params) "id" = some .null := by decide
  exact hne (Option.some.inj (hvalue.symm.trans hnull))

end HttpCalls
