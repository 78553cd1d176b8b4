-- Exploded lists. Each member is written as a scalar with the same name is, but for an empty
-- member of a parameter of a path: the scalar is a bare name, and the member is a name with `=`.
import HttpCalls.Proofs.Template.NamedPairs

namespace HttpCalls

open Text

/-! ## Scalars -/

theorem signed_ne_nil {x : Binary64} {text : List Char} (h : text ≠ []) : Decimal.signed x text ≠ [] := by
  unfold Decimal.signed
  split <;> simp [h]

theorem jsonText_ne_nil (x : Binary64) : Decimal.jsonText x ≠ [] := by
  unfold Decimal.jsonText
  split
  · simp
  · split
    · exact signed_ne_nil (by simp)
    · apply signed_ne_nil
      split
      · unfold Decimal.Digits.plain
        dsimp only
        split
        · simp
        · split <;> simp
      · simp [Decimal.Digits.scientific]

theorem intText_ne_nil (n : Int) : intText n ≠ [] := by
  have hdigits : Decimal.digits n.natAbs ≠ [] := Nat.toDigits_ne_nil
  unfold intText
  split <;> simp [hdigits]

theorem Number.text_ne_nil (n : Number) : n.text ≠ [] := by
  cases n with
  | whole n => exact intText_ne_nil n
  | real x => exact jsonText_ne_nil x

/-- Only the empty string has an empty text. -/
theorem Json.scalarText?_eq_nil {value : Json} : value.scalarText? = some [] ↔ value = .string "" := by
  cases value with
  | bool b => cases b <;> simp [Json.scalarText?]
  | number n => simp [Json.scalarText?, Number.text_ne_nil]
  | string s => simp [Json.scalarText?]
  | _ => simp [Json.scalarText?]

theorem meaning?_of_scalarText? {value : Json} {s : List Char} (h : value.scalarText? = some s) :
    value.meaning? = some (.text s) := by
  cases value with
  | array items => cases h
  | object fields => cases h
  | _ => simp [Json.meaning?, h]

/-! ## Members -/

/-- The text of a scalar under a plain variable, without the lead. -/
def Operator.plain (op : Operator) (name : String) (value : Json) : List Char :=
  (Expression.expand ⟨op, [⟨name, .none⟩]⟩ [(name, value)]).drop op.lead.length

/-- The text of a member of an exploded list. -/
def Operator.member (op : Operator) (name : String) (item : Json) : List Char :=
  if op = .parameter ∧ item = .string "" then name.toList ++ ['='] else op.plain name item

section
variable {op : Operator} {name : String} {item : Json} {s : List Char}

theorem plain_eq (h : item.scalarText? = some s) :
    op.plain name item = if op.isNamed then op.pair name (op.encode s) else op.encode s := by
  have hmeanings : Expression.meanings ⟨op, [⟨name, .none⟩]⟩ [(name, item)] =
      [(⟨name, .none⟩, .text s)] := by
    simp [Expression.meanings, Fields.value?, meaning?_of_scalarText? h]
  unfold Operator.plain
  rw [Expression.expand_eq, hmeanings]
  simp [joined, writtenAs, expandScalar]

theorem member_eq (h : item.scalarText? = some s) :
    op.member name item = op.headed name (op.encode s) := by
  unfold Operator.member Operator.headed
  rw [plain_eq h]
  cases hop : op.isNamed with
  | false =>
    have hother : op ≠ .parameter := by
      rintro rfl
      cases hop
    simp [hother]
  | true =>
    by_cases hempty : s = []
    · subst hempty
      have hitem := Json.scalarText?_eq_nil.mp h
      have hwritten : op.encode [] = [] := rfl
      rw [hwritten]
      revert hop
      cases op <;> simp [Operator.isNamed, Operator.pair, Operator.ifEmpty, hitem]
    · have hitem : item ≠ .string "" := by
        rintro rfl
        cases h
        exact hempty rfl
      have hwritten : op.encode s ≠ [] := fun hnil => hempty ((encode_eq_nil hop).mp hnil)
      simp [hitem, Operator.pair, hwritten]

theorem length_member (h : item.scalarText? = some s) :
    (op.member name item).length =
      (op.plain name item).length + if op = .parameter ∧ item = .string "" then 1 else 0 := by
  unfold Operator.member
  split
  · rename_i hempty
    obtain ⟨rfl, rfl⟩ := hempty
    rw [plain_eq (s := []) rfl]
    simp [Operator.isNamed, Operator.pair, Operator.encode, Percent.encode, Operator.ifEmpty]
  · rfl

end

/-! ## Lists -/

section
variable {α : Type} {sep : List Char} {f g : α → List Char} {l : List α}

theorem length_joined_le (h : ∀ x ∈ l, (f x).length ≤ (g x).length) :
    (joined sep (l.map f)).length ≤ (joined sep (l.map g)).length := by
  induction l with
  | nil => simp
  | cons x more ih =>
    rw [List.forall_mem_cons] at h
    cases more with
    | nil => exact h.1
    | cons y more =>
      have hmore := ih h.2
      simp only [List.map_cons, joined, List.length_append] at hmore ⊢
      omega

/-- One text that is longer makes the whole longer. -/
theorem length_joined_lt (h : ∀ x ∈ l, (f x).length ≤ (g x).length) {longer : α} (hmem : longer ∈ l)
    (hlt : (f longer).length < (g longer).length) :
    (joined sep (l.map f)).length < (joined sep (l.map g)).length := by
  induction l with
  | nil => cases hmem
  | cons x more ih =>
    rw [List.forall_mem_cons] at h
    cases more with
    | nil =>
      cases List.mem_singleton.mp hmem
      exact hlt
    | cons y more =>
      have hmore : (joined sep ((y :: more).map f)).length ≤ (joined sep ((y :: more).map g)).length :=
        length_joined_le h.2
      simp only [List.map_cons, joined, List.length_append] at hmore ⊢
      rcases List.mem_cons.mp hmem with rfl | hlater
      · omega
      · have hlonger := ih h.2 hlater
        simp only [List.map_cons] at hlonger
        omega

end

theorem map_scalarTexts {items : List Json} {f : List Char → List Char} {g : Json → List Char}
    (hscalar : ∀ item ∈ items, item.scalarText?.isSome)
    (h : ∀ {item s}, item.scalarText? = some s → g item = f s) :
    (items.filterMap Json.scalarText?).map f = items.map g := by
  induction items with
  | nil => rfl
  | cons item more ih =>
    rw [List.forall_mem_cons] at hscalar
    obtain ⟨s, hs⟩ := Option.isSome_iff_exists.mp hscalar.1
    rw [List.filterMap_cons_some hs, List.map_cons, List.map_cons, ih hscalar.2, h hs]

/-- An exploded list of scalars is the lead and its members, each written as a scalar with the same
name is, with separators between. An empty member of a parameter of a path is the one exception:
it keeps the sign that the scalar leaves out. -/
theorem members_are_written_like_scalars_but_for_empty_parameters (op : Operator) (name : String)
    (items : List Json) (values : Fields) (hvalue : values.value? name = some (.array items))
    (hsome : items ≠ []) (hscalar : ∀ item ∈ items, item.scalarText?.isSome) :
    let text := Expression.expand ⟨op, [⟨name, .explode⟩]⟩ values
    text = op.lead ++ joined op.separator (items.map (op.member name)) ∧
      (text = op.lead ++ joined op.separator (items.map (op.plain name)) ↔
        ¬(op = .parameter ∧ .string "" ∈ items)) := by
  intro text
  have htext : text = op.lead ++ joined op.separator (items.map (op.member name)) := by
    have hmembers := map_scalarTexts (g := op.member name) hscalar fun hs => member_eq hs
    have htexts : items.filterMap Json.scalarText? ≠ [] := by
      obtain ⟨item, more, rfl⟩ := List.exists_cons_of_ne_nil hsome
      obtain ⟨s, hs⟩ := Option.isSome_iff_exists.mp (hscalar item List.mem_cons_self)
      simp [hs]
    have hmeaning : (Json.array items).meaning? = some (.items (items.filterMap Json.scalarText?)) := by
      unfold Json.meaning?
      exact if_neg htexts
    have hmeanings : Expression.meanings ⟨op, [⟨name, .explode⟩]⟩ values =
        [(⟨name, .explode⟩, .items (items.filterMap Json.scalarText?))] := by
      simp only [Expression.meanings, List.filterMap_cons, List.filterMap_nil, hvalue, Option.bind_some,
        hmeaning, Option.map_some]
    simp only [text]
    rw [Expression.expand_eq, hmeanings, ← hmembers]
    simp [joined, writtenAs]
  refine ⟨htext, ?_⟩
  rw [htext, List.append_cancel_left_eq]
  constructor
  · -- an empty member is longer than the scalar, and no member is shorter
    rintro hsame ⟨hop, hempty⟩
    have hlength : ∀ item ∈ items, (op.member name item).length =
        (op.plain name item).length + if op = .parameter ∧ item = .string "" then 1 else 0 := by
      intro item hitem
      obtain ⟨s, hs⟩ := Option.isSome_iff_exists.mp (hscalar item hitem)
      exact length_member hs
    have hlonger : (joined op.separator (items.map (op.plain name))).length <
        (joined op.separator (items.map (op.member name))).length := by
      apply length_joined_lt _ hempty
      · rw [hlength _ hempty]
        simp [hop]
      · intro item hitem
        rw [hlength item hitem]
        omega
    rw [hsame] at hlonger
    omega
  · intro hnone
    congr 1
    apply List.map_congr_left
    intro item hitem
    unfold Operator.member
    apply if_neg
    rintro ⟨hop, rfl⟩
    exact hnone ⟨hop, hitem⟩

/-- An empty member of a query is written like an empty scalar, and that of a parameter is not. -/
theorem an_empty_member_in_a_query_and_in_a_path :
    let items : List Json := [.string "", .string "a b", .bool true]
    let values : Fields := [("x", .array items)]
    let query := Expression.expand ⟨.query, [⟨"x", .explode⟩]⟩ values
    let parameter := Expression.expand ⟨.parameter, [⟨"x", .explode⟩]⟩ values
    (∀ item ∈ items, item.scalarText?.isSome) ∧
      query = "?x=&x=a%20b&x=true".toList ∧
      query = Operator.query.lead ++ joined ['&'] (items.map (Operator.query.plain "x")) ∧
      parameter = ";x=;x=a%20b;x=true".toList ∧
      items.map (Operator.parameter.plain "x") =
        ["x".toList, "x=a%20b".toList, "x=true".toList] ∧
      parameter ≠ Operator.parameter.lead ++ joined [';'] (items.map (Operator.parameter.plain "x")) := by
  intro items values query parameter
  have hscalar : ∀ item ∈ items, item.scalarText?.isSome := by simp [items, Json.scalarText?]
  obtain ⟨-, hquery⟩ := members_are_written_like_scalars_but_for_empty_parameters .query "x" items
    values rfl (by simp [items]) hscalar
  obtain ⟨-, hparameter⟩ := members_are_written_like_scalars_but_for_empty_parameters .parameter "x"
    items values rfl (by simp [items]) hscalar
  refine ⟨hscalar, by decide, hquery.mpr (by simp), by decide, by decide, ?_⟩
  exact fun hsame => hparameter.mp hsame ⟨rfl, by simp [items]⟩

end HttpCalls
