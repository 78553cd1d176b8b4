-- Fields that are put one after the other. Of a name that comes more than once the first
-- place and the last value remain, and what is put later hides what was there before.
import HttpCalls.Json.Basic
import HttpCalls.Proofs.Template.Variables

namespace HttpCalls

/-! ## Entries with repeated names -/

/-- The last value under a name. -/
def lastUnder? (entries : List (String × Json)) (name : String) : Option Json :=
  ((entries.filter (·.1 = name)).getLast?).map (·.2)

/-- Each name at its first place, with its last value. -/
def merged (entries : List (String × Json)) : Fields :=
  (distinct (entries.map (·.1))).filterMap fun name =>
    (lastUnder? entries name).map fun value => (name, value)

theorem lastUnder?_append (entries more : List (String × Json)) (name : String) :
    lastUnder? (entries ++ more) name = (lastUnder? more name).or (lastUnder? entries name) := by
  rw [lastUnder?, List.filter_append, List.getLast?_append, Option.map_or]
  rfl

theorem lastUnder?_cons (name other : String) (value : Json) (entries : List (String × Json)) :
    lastUnder? ((name, value) :: entries) other =
      (lastUnder? entries other).or (if name = other then some value else none) := by
  rw [← List.singleton_append, lastUnder?_append]
  by_cases h : name = other <;> simp [lastUnder?, h]

theorem lastUnder?_eq_none {entries : List (String × Json)} {name : String} :
    lastUnder? entries name = none ↔ name ∉ entries.map (·.1) := by
  rw [lastUnder?, Option.map_eq_none_iff, List.getLast?_eq_none_iff, List.filter_eq_nil_iff]
  simp only [List.mem_map, not_exists, not_and, decide_eq_true_eq]

/-! ## Names -/

namespace Fields

/-- The names, in order. -/
def names (fields : Fields) : List String := fields.map (·.1)

@[simp]
theorem names_cons (k : String) (v : Json) (rest : Fields) :
    names ((k, v) :: rest) = k :: names rest :=
  rfl

theorem value?_eq_none {fields : Fields} {name : String} :
    fields.value? name = none ↔ name ∉ names fields := by
  induction fields with
  | nil => simp [value?, names]
  | cons f rest ih =>
    obtain ⟨k, v⟩ := f
    rw [value?]
    by_cases h : k = name
    · simp [h]
    · rw [if_neg h, ih]
      simp [Ne.symm h]

theorem value?_eq_some {fields : Fields} (hnodup : (names fields).Nodup) {name : String}
    {value : Json} : fields.value? name = some value ↔ (name, value) ∈ fields := by
  induction fields with
  | nil => simp [value?]
  | cons f rest ih =>
    obtain ⟨k, v⟩ := f
    rw [names_cons, List.nodup_cons] at hnodup
    rw [value?, List.mem_cons]
    by_cases hk : k = name
    · subst hk
      have hrest : (k, value) ∉ rest := fun hmem => hnodup.1 (List.mem_map_of_mem hmem)
      simp [hrest, eq_comm]
    · rw [if_neg hk, ih hnodup.2]
      simp [Ne.symm hk]

/-- The order of fields without a repeated name does not matter. -/
theorem value?_perm {fields others : Fields} (h : fields.Perm others)
    (hnodup : (names fields).Nodup) (name : String) : fields.value? name = others.value? name := by
  have hothers : (names others).Nodup := (h.map _).nodup hnodup
  apply Option.ext
  intro value
  rw [value?_eq_some hnodup, value?_eq_some hothers, h.mem_iff]

theorem names_put (fields : Fields) (name : String) (value : Json) :
    names (put fields name value) =
      if name ∈ names fields then names fields else names fields ++ [name] := by
  induction fields with
  | nil => rfl
  | cons f rest ih =>
    obtain ⟨k, v⟩ := f
    rw [put]
    by_cases h : k = name
    · simp [h]
    · rw [if_neg h, names_cons, names_cons, ih]
      by_cases hrest : name ∈ names rest
      · simp [hrest]
      · simp [hrest, Ne.symm h]

/-- Fields without a repeated name are known by their names and the values under them. -/
theorem ext_of_nodup {fields others : Fields} (hnames : names fields = names others)
    (hnodup : (names fields).Nodup) (h : ∀ name, fields.value? name = others.value? name) :
    fields = others := by
  induction fields generalizing others with
  | nil =>
    cases others with
    | nil => rfl
    | cons f rest => cases hnames
  | cons f rest ih =>
    cases others with
    | nil => cases hnames
    | cons g more =>
      obtain ⟨k, v⟩ := f
      obtain ⟨l, w⟩ := g
      rw [names_cons, names_cons, List.cons.injEq] at hnames
      rw [names_cons, List.nodup_cons] at hnodup
      obtain ⟨rfl, hrest⟩ := hnames
      have hvalue := h k
      simp only [value?, if_true, Option.some.injEq] at hvalue
      subst hvalue
      have hmore : rest = more := by
        apply ih hrest hnodup.2
        intro name
        by_cases hk : k = name
        · subst hk
          have hnot : k ∉ names more := by
            rw [← hrest]
            exact hnodup.1
          rw [value?_eq_none.mpr hnodup.1, value?_eq_none.mpr hnot]
        · have hname := h name
          rwa [value?, value?, if_neg hk, if_neg hk] at hname
      rw [hmore]

/-! ## Putting one after the other -/

theorem putAll_cons (fields more : Fields) (name : String) (value : Json) :
    putAll fields ((name, value) :: more) = putAll (put fields name value) more :=
  rfl

theorem putAll_append (fields more others : Fields) :
    putAll fields (more ++ others) = putAll (putAll fields more) others :=
  List.foldl_append

theorem value?_putAll (fields more : Fields) (name : String) :
    (putAll fields more).value? name = (lastUnder? more name).or (fields.value? name) := by
  induction more generalizing fields with
  | nil => rfl
  | cons f rest ih =>
    obtain ⟨k, v⟩ := f
    rw [putAll_cons, ih, value?_put, lastUnder?_cons, Option.or_assoc]
    split <;> rfl

/-- Names that are new come behind those that were there. -/
theorem names_putAll (fields more : Fields) :
    names (putAll fields more) =
      names fields ++ (distinct (names more)).filter fun name => name ∉ names fields := by
  induction more generalizing fields with
  | nil => exact (List.append_nil _).symm
  | cons f rest ih =>
    obtain ⟨k, v⟩ := f
    rw [putAll_cons, ih, names_put, names_cons, distinct, List.filter_cons, List.filter_filter]
    by_cases h : k ∈ names fields
    · have hsame : ∀ name ∈ distinct (names rest), decide (name ∉ names fields) =
          (decide (name ∉ names fields) && decide (name ≠ k)) := by
        intro name hname
        by_cases hk : name = k
        · simp [hk, h]
        · simp [hk]
      simp only [h, if_true, not_true_eq_false, decide_false, Bool.false_eq_true, if_false]
      rw [List.filter_congr hsame]
    · have hsame : ∀ name ∈ distinct (names rest), decide (name ∉ names fields ++ [k]) =
          (decide (name ∉ names fields) && decide (name ≠ k)) := by
        intro name hname
        rw [← Bool.decide_and, decide_eq_decide, List.mem_append, List.mem_singleton, not_or]
      simp only [h, if_false, not_false_eq_true, decide_true, if_true]
      rw [List.filter_congr hsame, List.append_assoc]
      rfl

theorem names_ofList (entries : List (String × Json)) :
    names (ofList entries) = distinct (entries.map (·.1)) := by
  rw [ofList, names_putAll]
  exact List.filter_eq_self.mpr fun name hname => by simp [names]

theorem value?_ofList (entries : List (String × Json)) (name : String) :
    (ofList entries).value? name = lastUnder? entries name := by
  rw [ofList, value?_putAll]
  exact Option.or_none

theorem put_of_notMem {fields : Fields} {name : String} (h : name ∉ names fields) (value : Json) :
    put fields name value = fields ++ [(name, value)] := by
  induction fields with
  | nil => rfl
  | cons f rest ih =>
    obtain ⟨k, v⟩ := f
    rw [names_cons, List.mem_cons, not_or] at h
    rw [put, if_neg (Ne.symm h.1), ih h.2]
    rfl

theorem putAll_of_nodup {fields more : Fields} (h : (names (fields ++ more)).Nodup) :
    putAll fields more = fields ++ more := by
  induction more generalizing fields with
  | nil => exact (List.append_nil _).symm
  | cons f rest ih =>
    obtain ⟨k, v⟩ := f
    have hnew : k ∉ names fields := by
      intro hmem
      rw [names, List.map_append, List.nodup_append] at h
      exact h.2.2 k hmem k List.mem_cons_self rfl
    rw [List.append_cons] at h
    rw [putAll_cons, put_of_notMem hnew, ih h, List.append_assoc]
    rfl

/-- Entries without a repeated name are fields as they are. -/
theorem ofList_of_nodup {entries : List (String × Json)} (h : (names entries).Nodup) :
    ofList entries = entries :=
  putAll_of_nodup h

end Fields

/-! ## Putting is merging -/

theorem names_filterMap {names : List String} {value? : String → Option Json}
    (h : ∀ name ∈ names, value? name ≠ none) :
    Fields.names (names.filterMap fun n => (value? n).map fun v => (n, v)) = names := by
  induction names with
  | nil => rfl
  | cons n more ih =>
    have hmore := ih fun m hm => h m (List.mem_cons_of_mem _ hm)
    cases hn : value? n with
    | none => exact absurd hn (h n List.mem_cons_self)
    | some v => rw [List.filterMap_cons_some (by rw [hn]; rfl), Fields.names_cons, hmore]

theorem names_merged (entries : List (String × Json)) :
    Fields.names (merged entries) = distinct (entries.map (·.1)) := by
  apply names_filterMap
  intro name hname hnone
  exact lastUnder?_eq_none.mp hnone ((mem_distinct _ _).mp hname)

theorem mem_names_merged {entries : List (String × Json)} {name : String} :
    name ∈ Fields.names (merged entries) ↔ name ∈ entries.map (·.1) := by
  rw [names_merged, mem_distinct]

theorem value?_filterMap (names : List String) (value? : String → Option Json) (name : String) :
    Fields.value? (names.filterMap fun n => (value? n).map fun v => (n, v)) name =
      if name ∈ names then value? name else none := by
  induction names with
  | nil => rfl
  | cons n more ih =>
    cases hn : value? n with
    | none =>
      rw [List.filterMap_cons_none (by rw [hn]; rfl), ih]
      by_cases h : name = n
      · subst h
        simp [hn]
      · simp [h]
    | some v =>
      rw [List.filterMap_cons_some (by rw [hn]; rfl), Fields.value?]
      by_cases h : n = name
      · subst h
        simp [hn]
      · rw [if_neg h, ih]
        simp [Ne.symm h]

theorem value?_merged (entries : List (String × Json)) (name : String) :
    (merged entries).value? name = lastUnder? entries name := by
  rw [merged, value?_filterMap]
  split
  · rfl
  · rename_i h
    rw [mem_distinct] at h
    exact (lastUnder?_eq_none.mpr h).symm

/-- Putting entries one after the other merges them. -/
theorem ofList_eq_merged (entries : List (String × Json)) : Fields.ofList entries = merged entries := by
  apply Fields.ext_of_nodup
  · rw [Fields.names_ofList, names_merged]
  · rw [Fields.names_ofList]
    exact nodup_distinct _
  · intro name
    rw [Fields.value?_ofList, value?_merged]

theorem putAll_merged (entries more : List (String × Json)) :
    Fields.putAll (merged entries) more = merged (entries ++ more) := by
  rw [← ofList_eq_merged, ← ofList_eq_merged, Fields.ofList, Fields.ofList, Fields.putAll_append]

end HttpCalls
