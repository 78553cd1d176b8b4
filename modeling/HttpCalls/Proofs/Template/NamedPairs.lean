-- Expressions that write names. What such an expression expands to is read back as the pairs
-- of names and texts that it stands for, whatever characters these are made of. So different
-- pairs never expand to the same text.
import HttpCalls.Proofs.Template.Meanings
import HttpCalls.Proofs.Text.Spelling

namespace HttpCalls

open Text

/-! ## The pairs of an expression -/

/-- The pairs that a variable stands for: its name with each of its texts, and the entries of an
object under their own keys. -/
def Variable.pairs (v : Variable) : Meaning → List (List Char × List Char)
  | .text s => [(v.name.toList, s)]
  | .items texts => texts.map fun text => (v.name.toList, text)
  | .entries pairs => pairs

def Expression.pairs (e : Expression) (values : Fields) : List (List Char × List Char) :=
  (e.meanings values).flatMap fun (v, m) => v.pairs m

/-! ## Reading an expansion -/

/-- What a percent-encoded text stands for. -/
def decoded? (text : List Char) : Option (List Char) :=
  Utf8.decode? (Percent.decode (Utf8.encode text))

/-- A name and a value, cut at the first `=`. Without one the value is empty. -/
def readPair? (piece : List Char) : Option (List Char × List Char) :=
  let (name, value) := (cut? '=' piece).getD (piece, [])
  (decoded? name).bind fun name => (decoded? value).map fun value => (name, value)

def Operator.divider : Operator → Char
  | .parameter => ';'
  | _ => '&'

/-- The pairs in an expansion: behind the lead, one in each piece between two dividers. -/
def Operator.readPairs? (op : Operator) (text : List Char) : Option (List (List Char × List Char)) :=
  if text = [] then some []
  else (dropStart? op.lead text).bind fun rest => (pieces op.divider rest).mapM readPair?

/-! ## Characters of an encoded text -/

theorem Percent.mem_encode {keep : Char → Bool} {text : List Char} {d : Char}
    (h : d ∈ encode keep text) : keep d = true ∨ d = '%' ∨ ∃ n, n < 16 ∧ d = Hex.upper n := by
  obtain ⟨c, -, hd⟩ := List.mem_flatMap.mp h
  split at hd
  · rename_i hkeep
    rw [List.mem_singleton] at hd
    exact .inl (hd ▸ hkeep)
  · obtain ⟨b, -, hd⟩ := List.mem_flatMap.mp hd
    have hb : b.toNat < 256 := b.toNat_lt
    simp only [triplet, List.mem_cons, List.not_mem_nil, or_false] at hd
    rcases hd with rfl | rfl | rfl
    · exact .inr (.inl rfl)
    · exact .inr (.inr ⟨b.toNat / 16, by omega, rfl⟩)
    · exact .inr (.inr ⟨b.toNat % 16, by omega, rfl⟩)

section
variable {op : Operator}

theorem keepsReserved_of_named (hop : op.isNamed = true) : op.keepsReserved = false := by
  revert hop
  cases op <;> decide

theorem keeps_of_named (hop : op.isNamed = true) (c : Char) : op.keeps c = Percent.isUnreserved c := by
  simp [Operator.keeps, keepsReserved_of_named hop]

theorem notMem_encode (hop : op.isNamed = true) (text : List Char) {d : Char}
    (hd : d = '=' ∨ d = ';' ∨ d = '&') : d ∉ op.encode text := by
  intro hmem
  rcases Percent.mem_encode hmem with hkeep | hpercent | ⟨n, hn, hhex⟩
  · rw [keeps_of_named hop] at hkeep
    rcases hd with rfl | rfl | rfl <;> revert hkeep <;> decide
  · rcases hd with rfl | rfl | rfl <;> revert hpercent <;> decide
  · have hdigits : ∀ n, n < 16 → Hex.upper n ≠ '=' ∧ Hex.upper n ≠ ';' ∧ Hex.upper n ≠ '&' := by
      decide
    obtain ⟨h1, h2, h3⟩ := hdigits n hn
    rcases hd with rfl | rfl | rfl
    · exact h1 hhex.symm
    · exact h2 hhex.symm
    · exact h3 hhex.symm

theorem divider_cases (op : Operator) : op.divider = '=' ∨ op.divider = ';' ∨ op.divider = '&' := by
  cases op <;> simp [Operator.divider]

theorem divider_ne (op : Operator) : op.divider ≠ '=' := by
  cases op <;> decide

theorem separator_of_named (hop : op.isNamed = true) : op.separator = [op.divider] := by
  revert hop
  cases op <;> decide

theorem decoded?_encode (hop : op.isNamed = true) (text : List Char) :
    decoded? (op.encode text) = some text := by
  have hpercent : op.keeps '%' = false := by
    rw [keeps_of_named hop]
    decide
  unfold decoded? Operator.encode
  rw [Percent.decode_encode hpercent, Utf8.decode?_encode]

theorem decoded?_plain {text : List Char} (h : '%' ∉ text) : decoded? text = some text := by
  unfold decoded?
  rw [Percent.decode_plain h, Utf8.decode?_encode]

/-! ## Reading a piece -/

/-- The piece stands alone between dividers, and it is read as the pair. -/
structure ReadsAs (op : Operator) (piece : List Char) (pair : List Char × List Char) : Prop where
  undivided : op.divider ∉ piece
  read : readPair? piece = some pair

theorem readsAs_assignment (hop : op.isNamed = true) {written name : List Char} (text : List Char)
    (hequals : '=' ∉ written) (hdivider : op.divider ∉ written) (hname : decoded? written = some name) :
    ReadsAs op (written ++ '=' :: op.encode text) (name, text) := by
  constructor
  · intro hmem
    rcases List.mem_append.mp hmem with hwritten | hrest
    · exact hdivider hwritten
    · rcases List.mem_cons.mp hrest with heq | hencoded
      · exact divider_ne op heq
      · exact notMem_encode hop text (divider_cases op) hencoded
  · unfold readPair?
    rw [cut?_append_sep _ hequals]
    simp only [Option.getD_some, hname, decoded?_encode hop, Option.bind_some, Option.map_some]

theorem readsAs_bare {written name : List Char} (hequals : '=' ∉ written)
    (hdivider : op.divider ∉ written) (hname : decoded? written = some name) :
    ReadsAs op written (name, []) := by
  constructor
  · exact hdivider
  · unfold readPair?
    rw [cut?_eq_none.mpr hequals]
    simp only [Option.getD_none, hname, Option.bind_some]
    rw [decoded?_plain (by simp), Option.map_some]

theorem mapM_eq_of_forall {α β γ : Type} {f : β → Option γ} {g : α → β} {h : α → γ} {l : List α}
    (hf : ∀ a ∈ l, f (g a) = some (h a)) : (l.map g).mapM f = some (l.map h) := by
  induction l with
  | nil => rfl
  | cons a more ih =>
    have hmore := ih fun b hb => hf b (List.mem_cons_of_mem _ hb)
    rw [List.map_cons, List.mapM_cons, hf a List.mem_cons_self, hmore]
    rfl

theorem mapM_flatMap_eq {α β γ : Type} {f : β → Option γ} {g : α → List β} {h : α → List γ}
    {l : List α} (hf : ∀ a ∈ l, (g a).mapM f = some (h a)) :
    (l.flatMap g).mapM f = some (l.flatMap h) := by
  induction l with
  | nil => rfl
  | cons a more ih =>
    have hmore := ih fun b hb => hf b (List.mem_cons_of_mem _ hb)
    rw [List.flatMap_cons, List.mapM_append, hf a List.mem_cons_self, hmore]
    rfl

end

/-! ## Reading an expression -/

/-- The pieces of a variable, with the members of a composite one by one. -/
def piecesOf (op : Operator) (v : Variable) : Meaning → List (List Char)
  | .text s => [op.pair v.name (op.encode s)]
  | .items texts => texts.map fun text => v.name.toList ++ '=' :: op.encode text
  | .entries pairs => pairs.map fun (key, text) => op.encode key ++ '=' :: op.encode text

/-- Reading leaves the name whole, as it does one of letters, digits, `_` and `.`. -/
def Variable.IsReadable (v : Variable) : Prop := ∀ c ∈ ['%', '=', ';', '&'], c ∉ v.name.toList

def Json.isComposite : Json → Bool
  | .array _ | .object _ => true
  | _ => false

/-- The expression writes names, no variable is cut short, and composites are written one by one. -/
structure Expression.IsReadable (e : Expression) (values : Fields) : Prop where
  named : e.operator.isNamed = true
  whole : ∀ v ∈ e.vars, ∀ n, v.modifier ≠ .limit n
  plain : ∀ v ∈ e.vars, v.IsReadable
  exploded : ∀ v ∈ e.vars, ∀ value ∈ values.value? v.name,
    value.isComposite = true → v.modifier = .explode

theorem isComposite_of_meaning? {value : Json} {m : Meaning} (h : value.meaning? = some m)
    (hm : ∀ s, m ≠ .text s) : value.isComposite = true := by
  unfold Json.meaning? at h
  split at h
  · rfl
  · rfl
  · obtain ⟨s, -, htext⟩ := Option.map_eq_some_iff.mp h
    exact absurd htext.symm (hm s)

section
variable {e : Expression} {values : Fields} {v : Variable} {m : Meaning}

theorem writtenPieces_eq (h : e.IsReadable values) (hm : (v, m) ∈ e.meanings values) :
    writtenPieces e.operator v m = piecesOf e.operator v m := by
  obtain ⟨hv, value, hvalue, hmeaning⟩ := Expression.mem_meanings.mp hm
  have hnamed := h.named
  cases m with
  | text s =>
    have hwhole : ∀ n, v.modifier = .limit n → False := h.whole v hv
    simp only [writtenPieces, expandScalar, piecesOf, hnamed, if_true]
  | items texts =>
    have hcomposite := isComposite_of_meaning? hmeaning (by simp)
    have hexplode := h.exploded v hv value hvalue hcomposite
    simp only [writtenPieces, piecesOf, hexplode, if_true, Operator.headed, hnamed]
  | entries pairs =>
    have hcomposite := isComposite_of_meaning? hmeaning (by simp)
    have hexplode := h.exploded v hv value hvalue hcomposite
    simp only [writtenPieces, piecesOf, hexplode, if_true]

/-- The members of the variables are the pieces of a readable expression. -/
theorem pieces_eq (h : e.IsReadable values) :
    e.pieces values = (e.meanings values).flatMap fun (v, m) => piecesOf e.operator v m := by
  rw [Expression.pieces, List.flatMap_def, List.flatMap_def]
  congr 1
  apply List.map_congr_left
  rintro ⟨v, m⟩ hm
  exact writtenPieces_eq h hm

theorem Variable.IsReadable.name (hplain : v.IsReadable) (op : Operator) :
    '=' ∉ v.name.toList ∧ op.divider ∉ v.name.toList ∧
      decoded? v.name.toList = some v.name.toList := by
  refine ⟨hplain '=' (by simp), ?_, decoded?_plain (hplain '%' (by simp))⟩
  rcases divider_cases op with h | h | h <;> rw [h] <;> exact hplain _ (by simp)

theorem readsAs_item {op : Operator} (hop : op.isNamed = true) (hplain : v.IsReadable)
    (text : List Char) : ReadsAs op (v.name.toList ++ '=' :: op.encode text) (v.name.toList, text) := by
  obtain ⟨hequals, hdivider, hname⟩ := hplain.name op
  exact readsAs_assignment hop text hequals hdivider hname

theorem readsAs_entry {op : Operator} (hop : op.isNamed = true) (key text : List Char) :
    ReadsAs op (op.encode key ++ '=' :: op.encode text) (key, text) :=
  readsAs_assignment hop text (notMem_encode hop key (.inl rfl))
    (notMem_encode hop key (divider_cases op)) (decoded?_encode hop key)

theorem encode_eq_nil {op : Operator} (hop : op.isNamed = true) {text : List Char} :
    op.encode text = [] ↔ text = [] := by
  constructor
  · intro h
    have hread := decoded?_encode hop text
    rw [h, decoded?_plain (by simp), Option.some.injEq] at hread
    exact hread.symm
  · rintro rfl
    rfl

theorem readsAs_pair {op : Operator} (hop : op.isNamed = true) (hplain : v.IsReadable)
    (text : List Char) : ReadsAs op (op.pair v.name (op.encode text)) (v.name.toList, text) := by
  obtain ⟨hequals, hdivider, hname⟩ := hplain.name op
  unfold Operator.pair
  split
  · rename_i hempty
    have htext : text = [] := (encode_eq_nil hop).mp (List.isEmpty_iff.mp hempty)
    subst htext
    -- an empty value has its `=` in a query, and none in a parameter of a path
    have hifEmpty : op.ifEmpty = '=' :: op.encode [] ∨ op.ifEmpty = [] := by
      cases op <;> simp [Operator.ifEmpty, Operator.encode, Percent.encode]
    rcases hifEmpty with hmark | hnothing
    · rw [hmark]
      exact readsAs_assignment hop [] hequals hdivider hname
    · rw [hnothing, List.append_nil]
      exact readsAs_bare hequals hdivider hname
  · exact readsAs_assignment hop text hequals hdivider hname

theorem piecesOf_read {op : Operator} (hop : op.isNamed = true) (hplain : v.IsReadable) (m : Meaning) :
    (∀ piece ∈ piecesOf op v m, op.divider ∉ piece) ∧
      (piecesOf op v m).mapM readPair? = some (v.pairs m) := by
  cases m with
  | text s =>
    have hreads := readsAs_pair hop hplain s
    constructor
    · intro piece hpiece
      rw [piecesOf, List.mem_singleton] at hpiece
      rw [hpiece]
      exact hreads.undivided
    · rw [piecesOf, List.mapM_cons, hreads.read]
      rfl
  | items texts =>
    have hreads := fun text => readsAs_item hop hplain text
    constructor
    · intro piece hpiece
      obtain ⟨text, -, rfl⟩ := List.mem_map.mp hpiece
      exact (hreads text).undivided
    · exact mapM_eq_of_forall fun text _ => (hreads text).read
  | entries pairs =>
    have hreads := fun pair : List Char × List Char => readsAs_entry hop pair.1 pair.2
    constructor
    · intro piece hpiece
      obtain ⟨pair, -, rfl⟩ := List.mem_map.mp hpiece
      exact (hreads pair).undivided
    · have hread := mapM_eq_of_forall (l := pairs) fun pair _ => (hreads pair).read
      rwa [List.map_id'] at hread

theorem expand_pieces (h : e.IsReadable values) (hne : e.meanings values ≠ []) :
    e.expand values = e.operator.lead ++
      joined [e.operator.divider]
        ((e.meanings values).flatMap fun (v, m) => piecesOf e.operator v m) := by
  rw [Expression.expand_eq_pieces, if_neg (mt Expression.pieces_eq_nil.mp hne),
    separator_of_named h.named, pieces_eq h]

theorem readPairs?_expand (h : e.IsReadable values) :
    e.operator.readPairs? (e.expand values) = some (e.pairs values) := by
  by_cases hne : e.meanings values = []
  · rw [Expression.expand_eq, if_pos hne, Expression.pairs, hne]
    rfl
  · have hnotempty : e.expand values ≠ [] := by
      rw [expand_pieces h hne]
      have hnamed := h.named
      revert hnamed
      cases e.operator <;> simp [Operator.isNamed, Operator.lead]
    have hpieces : ∀ piece ∈ (e.meanings values).flatMap fun (v, m) => piecesOf e.operator v m,
        e.operator.divider ∉ piece := by
      intro piece hpiece
      obtain ⟨⟨v, m⟩, hm, hpiece⟩ := List.mem_flatMap.mp hpiece
      have hplain := h.plain v (Expression.mem_meanings.mp hm).1
      exact (piecesOf_read h.named hplain m).1 piece hpiece
    have hsome : ((e.meanings values).flatMap fun (v, m) => piecesOf e.operator v m) ≠ [] := by
      rw [← pieces_eq h]
      exact mt Expression.pieces_eq_nil.mp hne
    unfold Operator.readPairs?
    rw [if_neg hnotempty, expand_pieces h hne, dropStart?_append, Option.bind_some,
      pieces_joined hsome hpieces]
    apply mapM_flatMap_eq
    rintro ⟨v, m⟩ hm
    have hplain := h.plain v (Expression.mem_meanings.mp hm).1
    exact (piecesOf_read h.named hplain m).2

theorem pairs_eq_nil : e.pairs values = [] ↔ e.meanings values = [] := by
  constructor
  · intro h
    apply Decidable.byContradiction
    intro hne
    obtain ⟨⟨v, m⟩, hm⟩ := List.exists_mem_of_ne_nil _ hne
    have hnil : v.pairs m = [] := List.flatMap_eq_nil_iff.mp h (v, m) hm
    obtain ⟨-, value, -, hmeaning⟩ := Expression.mem_meanings.mp hm
    obtain ⟨hitems, hentries⟩ := meaning?_ne_nil hmeaning
    cases m with
    | text s => cases hnil
    | items texts => exact hitems (by rw [List.map_eq_nil_iff.mp hnil])
    | entries pairs => exact hentries (by rw [show pairs = [] from hnil])
  · intro h
    rw [Expression.pairs, h]
    rfl

end

/-- The expansion of named values is read back as their pairs. It is empty when there are none,
and two expansions differ when their pairs do. -/
theorem named_values_are_read_back (e : Expression) (values : Fields) (h : e.IsReadable values) :
    e.operator.readPairs? (e.expand values) = some (e.pairs values) ∧
      (e.expand values = [] ↔ e.pairs values = []) ∧
      ∀ others, e.IsReadable others → e.pairs values ≠ e.pairs others →
        e.expand values ≠ e.expand others := by
  have hread := readPairs?_expand h
  refine ⟨hread, ?_, ?_⟩
  · constructor
    · intro hnil
      rw [hnil] at hread
      exact (Option.some.inj hread).symm
    · intro hnil
      rw [Expression.expand_eq, if_pos (pairs_eq_nil.mp hnil)]
  · intro others hothers hpairs heq
    apply hpairs
    rw [heq, readPairs?_expand hothers] at hread
    exact (Option.some.inj hread).symm

/-- Dividers, equals signs and percent signs in values and keys part nothing. -/
theorem a_query_with_every_divider_in_its_values :
    let e : Expression := ⟨.query, [⟨"q", .none⟩, ⟨"sort", .none⟩, ⟨"filter", .explode⟩, ⟨"tag", .explode⟩]⟩
    let values : Fields :=
      [("q", .string "a&b=c%20;é"), ("sort", .null),
        ("filter", .object [("x=y&", .string ""), ("gone", .null), ("", .bool true)]),
        ("tag", .array [.string "", .null, .string "?"])]
    let pairs := [("q".toList, "a&b=c%20;é".toList), ("x=y&".toList, []), ([], "true".toList),
      ("tag".toList, []), ("tag".toList, "?".toList)]
    e.IsReadable values ∧ e.pairs values = pairs ∧
      e.operator.readPairs? (e.expand values) = some pairs := by
  intro e values pairs
  have hreadable : e.IsReadable values := by
    constructor
    · rfl
    · simp [e]
    · simp only [e, Variable.IsReadable, List.forall_mem_cons, List.not_mem_nil, false_implies,
        implies_true, and_true]
      decide
    · decide
  have hpairs : e.pairs values = pairs := by decide
  refine ⟨hreadable, hpairs, ?_⟩
  rw [← hpairs]
  exact (named_values_are_read_back e values hreadable).1

end HttpCalls
