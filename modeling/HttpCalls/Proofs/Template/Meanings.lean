-- What the variables of an expression stand for: a text, the items of a list, or the entries of
-- an object. An expression writes each variable that stands for something, in order, and no
-- other; this is all that its expansion depends on.
import HttpCalls.Proofs.Text.Joining
import HttpCalls.Template.Expand

namespace HttpCalls

open Text

/-- What a value is to an expression. A composite is its scalar members. -/
inductive Meaning
  | text (s : List Char)
  | items (texts : List (List Char))
  | entries (pairs : List (List Char × List Char))
deriving DecidableEq, Repr

/-! ## Texts of a meaning -/

def Meaning.keys : Meaning → List (List Char)
  | .entries pairs => pairs.map (·.1)
  | _ => []

/-- The members of a composite. -/
def Meaning.members : Meaning → List (List Char)
  | .text _ => []
  | .items texts => texts
  | .entries pairs => pairs.map (·.2)

def Meaning.texts : Meaning → List (List Char)
  | .text s => [s]
  | m => m.keys ++ m.members

/-! ## Values -/

/-- The entries of an object whose values are scalars. -/
def scalarEntries (fields : Fields) : List (List Char × List Char) :=
  fields.filterMap fun (key, value) => value.scalarText?.map fun text => (key.toList, text)

/-- What a value is to an expression; `null` and composites without a scalar are nothing. -/
def Json.meaning? : Json → Option Meaning
  | .array items =>
    let texts := items.filterMap Json.scalarText?
    if texts = [] then none else some (.items texts)
  | .object fields =>
    let pairs := scalarEntries fields
    if pairs = [] then none else some (.entries pairs)
  | value => value.scalarText?.map .text

/-- The text that an operator writes for a variable. -/
def writtenAs (op : Operator) (v : Variable) : Meaning → List Char
  | .text s => expandScalar op v s
  | .items texts =>
    if v.modifier = .explode then
      joined op.separator (texts.map fun text => op.headed v.name (op.encode text))
    else op.headed v.name (joined [','] (texts.map op.encode))
  | .entries pairs =>
    if v.modifier = .explode then
      joined op.separator (pairs.map fun (key, text) => op.encode key ++ '=' :: op.encode text)
    else
      op.headed v.name
        (joined [','] (pairs.map fun (key, text) => op.encode key ++ ',' :: op.encode text))

theorem expandList_eq (op : Operator) (v : Variable) (items : List Json) :
    expandList op v items = (Json.array items).meaning?.map (writtenAs op v) := by
  unfold expandList Json.meaning?
  by_cases h : items.filterMap Json.scalarText? = []
  · simp [h]
  · by_cases hexplode : v.modifier = .explode
    · simp [h, hexplode, writtenAs, List.map_map, Function.comp_def]
    · simp [h, hexplode, writtenAs]

theorem expandObject_eq (op : Operator) (v : Variable) (fields : Fields) :
    expandObject op v fields = (Json.object fields).meaning?.map (writtenAs op v) := by
  have hencoded : (fields.filterMap fun (k, value) =>
      value.scalarText?.map fun text => (op.encode k.toList, op.encode text)) =
      (scalarEntries fields).map fun (key, text) => (op.encode key, op.encode text) := by
    unfold scalarEntries
    rw [List.map_filterMap]
    simp only [Option.map_map]
    rfl
  unfold expandObject Json.meaning?
  rw [hencoded]
  by_cases h : scalarEntries fields = []
  · simp [h]
  · by_cases hexplode : v.modifier = .explode
    · simp [h, hexplode, writtenAs, List.map_map, Function.comp_def]
    · simp [h, hexplode, writtenAs, List.map_map, Function.comp_def]

theorem expandValue_eq (op : Operator) (v : Variable) (value : Json) :
    expandValue op v value = value.meaning?.map (writtenAs op v) := by
  cases value with
  | null => rfl
  | bool b => cases b <;> rfl
  | number n => rfl
  | string s => rfl
  | array items => exact expandList_eq op v items
  | object fields => exact expandObject_eq op v fields

/-- The variables that stand for something, in order. -/
def Expression.meanings (e : Expression) (values : Fields) : List (Variable × Meaning) :=
  e.vars.filterMap fun v => ((values.value? v.name).bind Json.meaning?).map fun m => (v, m)

/-- An expression writes its lead and the variables that stand for something. -/
theorem Expression.expand_eq (e : Expression) (values : Fields) :
    e.expand values =
      if e.meanings values = [] then []
      else e.operator.lead ++
        joined e.operator.separator ((e.meanings values).map fun (v, m) => writtenAs e.operator v m) := by
  have htexts : (e.vars.filterMap fun v => (values.value? v.name).bind (expandValue e.operator v)) =
      (e.meanings values).map fun (v, m) => writtenAs e.operator v m := by
    unfold Expression.meanings
    rw [List.map_filterMap]
    congr 1
    funext v
    cases values.value? v.name with
    | none => rfl
    | some value =>
      simp only [Option.bind_some, expandValue_eq, Option.map_map]
      rfl
  unfold Expression.expand
  rw [htexts]
  simp only [List.isEmpty_iff, List.map_eq_nil_iff]

theorem Expression.mem_meanings {e : Expression} {values : Fields} {v : Variable} {m : Meaning} :
    (v, m) ∈ e.meanings values ↔
      v ∈ e.vars ∧ ∃ value, values.value? v.name = some value ∧ value.meaning? = some m := by
  unfold Expression.meanings
  rw [List.mem_filterMap]
  constructor
  · rintro ⟨w, hw, h⟩
    obtain ⟨m', hm, heq⟩ := Option.map_eq_some_iff.mp h
    cases heq
    exact ⟨hw, Option.bind_eq_some_iff.mp hm⟩
  · rintro ⟨hv, hm⟩
    refine ⟨v, hv, ?_⟩
    rw [Option.bind_eq_some_iff.mpr hm]
    rfl

theorem meaning?_ne_nil {value : Json} {m : Meaning} (h : value.meaning? = some m) :
    m ≠ .items [] ∧ m ≠ .entries [] := by
  unfold Json.meaning? at h
  split at h
  · simp only [Option.ite_none_left_eq_some, Option.some.injEq] at h
    obtain ⟨hne, rfl⟩ := h
    simp [hne]
  · simp only [Option.ite_none_left_eq_some, Option.some.injEq] at h
    obtain ⟨hne, rfl⟩ := h
    simp [hne]
  · obtain ⟨s, -, rfl⟩ := Option.map_eq_some_iff.mp h
    simp

/-! ## Pieces -/

/-- The pieces of a variable, between which the separator of the operator stands. -/
def writtenPieces (op : Operator) (v : Variable) : Meaning → List (List Char)
  | .text s => [expandScalar op v s]
  | .items texts =>
    if v.modifier = .explode then texts.map fun text => op.headed v.name (op.encode text)
    else [op.headed v.name (joined [','] (texts.map op.encode))]
  | .entries pairs =>
    if v.modifier = .explode then pairs.map fun p => op.encode p.1 ++ '=' :: op.encode p.2
    else [op.headed v.name (joined [','] (pairs.map fun p => op.encode p.1 ++ ',' :: op.encode p.2))]

theorem writtenAs_eq_pieces (op : Operator) (v : Variable) (m : Meaning) :
    writtenAs op v m = joined op.separator (writtenPieces op v m) := by
  cases m with
  | text s => rfl
  | items texts =>
    simp only [writtenAs, writtenPieces]
    split <;> rfl
  | entries pairs =>
    simp only [writtenAs, writtenPieces]
    split <;> rfl

/-- The pieces of all variables. -/
def Expression.pieces (e : Expression) (values : Fields) : List (List Char) :=
  (e.meanings values).flatMap fun r => writtenPieces e.operator r.1 r.2

namespace Expression

variable {e : Expression} {values : Fields}

theorem writtenPieces_ne_nil {r : Variable × Meaning} (h : r ∈ e.meanings values) :
    writtenPieces e.operator r.1 r.2 ≠ [] := by
  obtain ⟨v, m⟩ := r
  obtain ⟨-, value, -, hvalue⟩ := mem_meanings.mp h
  obtain ⟨hitems, hentries⟩ := meaning?_ne_nil hvalue
  by_cases hexplode : v.modifier = .explode
  · cases m <;> simp_all [writtenPieces]
  · cases m <;> simp [writtenPieces, hexplode]

theorem pieces_eq_nil : e.pieces values = [] ↔ e.meanings values = [] := by
  unfold pieces
  rw [List.flatMap_eq_nil_iff]
  constructor
  · intro hall
    apply List.eq_nil_iff_forall_not_mem.mpr
    exact fun r hr => writtenPieces_ne_nil hr (hall r hr)
  · intro hnil
    simp [hnil]

/-- The expansion is the pieces of all variables with separators between, behind the lead. -/
theorem expand_eq_pieces (e : Expression) (values : Fields) :
    e.expand values =
      if e.pieces values = [] then []
      else e.operator.lead ++ joined e.operator.separator (e.pieces values) := by
  have hgroups : ((e.meanings values).map fun r => writtenAs e.operator r.1 r.2) =
      ((e.meanings values).map fun r => writtenPieces e.operator r.1 r.2).map
        (joined e.operator.separator) := by
    rw [List.map_map]
    exact List.map_congr_left fun r _ => writtenAs_eq_pieces e.operator r.1 r.2
  have hpieces : [] ∉ (e.meanings values).map fun r => writtenPieces e.operator r.1 r.2 := by
    intro hmem
    obtain ⟨r, hr, hnil⟩ := List.mem_map.mp hmem
    exact writtenPieces_ne_nil hr hnil
  have hwritten := expand_eq e values
  rw [hgroups, joined_map_joined hpieces, ← List.flatMap_def] at hwritten
  simp only [pieces_eq_nil]
  exact hwritten

end Expression

end HttpCalls
