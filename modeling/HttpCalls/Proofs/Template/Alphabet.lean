-- The characters that an expression can write. Whatever stands in the values, an expression with
-- names of letters, digits, `_` and `.` writes characters of a URI and no others, and one that
-- keeps no reserved characters has each delimiter from its operator alone.
import HttpCalls.Proofs.Template.NamedPairs
import HttpCalls.Proofs.Template.Variables
import HttpCalls.Proofs.Template.Written

namespace HttpCalls

open Text

/-! ## Texts with triplets -/

/-- Every percent sign stands at the head of a triplet. -/
def Tripled (text : List Char) : Prop :=
  ∀ before after, text = before ++ '%' :: after →
    ∃ a b rest, after = a :: b :: rest ∧ isHexDigit a = true ∧ isHexDigit b = true

theorem tripled_of_plain {text : List Char} (h : '%' ∉ text) : Tripled text := by
  rintro before after rfl
  simp at h

theorem Tripled.append {a b : List Char} (ha : Tripled a) (hb : Tripled b) : Tripled (a ++ b) := by
  intro before after h
  rw [List.append_eq_append_iff] at h
  obtain ⟨more, rfl, hb'⟩ | ⟨more, rfl, hrest⟩ := h
  · exact hb more after hb'
  · cases more with
    | nil => exact hb [] after (by simpa using hrest.symm)
    | cons c more =>
      rw [List.cons_append, List.cons.injEq] at hrest
      obtain ⟨rfl, rfl⟩ := hrest
      obtain ⟨x, y, rest, rfl, hx, hy⟩ := ha before more rfl
      exact ⟨x, y, rest ++ b, rfl, hx, hy⟩

theorem Tripled.flatMap {α : Type} {f : α → List Char} {l : List α} (h : ∀ x ∈ l, Tripled (f x)) :
    Tripled (l.flatMap f) := by
  induction l with
  | nil => exact tripled_of_plain (by simp)
  | cons x more ih =>
    rw [List.flatMap_cons]
    exact (h x List.mem_cons_self).append (ih fun y hy => h y (List.mem_cons_of_mem _ hy))

theorem upper_hex : ∀ n, n < 16 → isHexDigit (Hex.upper n) = true ∧ Hex.upper n ≠ '%' := by
  decide

theorem tripled_triplet (b : UInt8) : Tripled (Percent.triplet b) := by
  have hb : b.toNat < 256 := b.toNat_lt
  obtain ⟨hhigh, hhigh'⟩ := upper_hex (b.toNat / 16) (by omega)
  obtain ⟨hlow, hlow'⟩ := upper_hex (b.toNat % 16) (by omega)
  intro before after h
  unfold Percent.triplet at h
  -- only the first of the three characters is a percent sign
  rcases before with _ | ⟨x, _ | ⟨y, _ | ⟨z, before⟩⟩⟩
  · cases h
    exact ⟨_, _, [], rfl, hhigh, hlow⟩
  · simp only [List.cons_append, List.nil_append, List.cons.injEq] at h
    exact absurd h.2.1 hhigh'
  · simp only [List.cons_append, List.nil_append, List.cons.injEq] at h
    exact absurd h.2.2.1 hlow'
  · simp at h

theorem tripled_escaped (c : Char) : Tripled (Percent.escaped c) :=
  Tripled.flatMap fun b _ => tripled_triplet b

/-- Where the percent sign is not kept, all percent signs come from the encoding. -/
theorem tripled_encode {keep : Char → Bool} (h : keep '%' = false) (text : List Char) :
    Tripled (Percent.encode keep text) := by
  apply Tripled.flatMap
  intro c _
  split
  · rename_i hkeep
    apply tripled_of_plain
    rintro hmem
    rw [List.mem_singleton] at hmem
    rw [← hmem, h] at hkeep
    cases hkeep
  · exact tripled_escaped c

/-! ## What holds of all that is written -/

/-- A property of texts that holds of texts laid together and of all that the operator puts there
but its lead, its separator and its names. -/
structure Operator.Upholds (op : Operator) (P : List Char → Prop) : Prop where
  nil : P []
  append : ∀ {a b : List Char}, P a → P b → P (a ++ b)
  comma : P [',']
  equals : P ['=']
  encode : ∀ text, P (op.encode text)

section
variable {op : Operator} {P : List Char → Prop}

namespace Operator.Upholds

theorem joined (h : op.Upholds P) {sep : List Char} (hsep : P sep) {texts : List (List Char)}
    (htexts : ∀ text ∈ texts, P text) : P (joined sep texts) := by
  cases texts with
  | nil => exact h.nil
  | cons text more =>
    rw [joined_eq]
    apply h.append (htexts text List.mem_cons_self)
    replace htexts := fun t ht => htexts t (List.mem_cons_of_mem text ht)
    induction more with
    | nil => exact h.nil
    | cons next more ih =>
      rw [List.flatMap_cons]
      have hnext := h.append hsep (htexts next List.mem_cons_self)
      exact h.append hnext (ih fun t ht => htexts t (List.mem_cons_of_mem next ht))

theorem assigned (h : op.Upholds P) {a b : List Char} (ha : P a) (hb : P b) : P (a ++ '=' :: b) :=
  h.append ha (h.append h.equals hb)

theorem headed (h : op.Upholds P) {name : String} (hname : op.isNamed = true → P name.toList)
    {text : List Char} (htext : P text) : P (op.headed name text) := by
  unfold Operator.headed
  split
  · rename_i hop
    exact h.assigned (hname hop) htext
  · exact htext

theorem scalar (h : op.Upholds P) {v : Variable} (hname : op.isNamed = true → P v.name.toList)
    (s : List Char) : P (expandScalar op v s) := by
  have hpair : op.isNamed = true → ∀ text, P (op.pair v.name (op.encode text)) := by
    intro hop text
    unfold Operator.pair
    split
    · have hifEmpty : op.ifEmpty = [] ∨ op.ifEmpty = ['='] := by cases op <;> simp [Operator.ifEmpty]
      apply h.append (hname hop)
      rcases hifEmpty with hempty | hempty <;> rw [hempty]
      · exact h.nil
      · exact h.equals
    · exact h.assigned (hname hop) (h.encode text)
  unfold expandScalar
  by_cases hop : op.isNamed = true
  · simp only [hop, if_true]
    exact hpair hop _
  · simp only [hop, if_false, Bool.false_eq_true]
    exact h.encode _

theorem pieces (h : op.Upholds P) {v : Variable} (hname : op.isNamed = true → P v.name.toList)
    (m : Meaning) : ∀ piece ∈ writtenPieces op v m, P piece := by
  have hentry : ∀ p : List Char × List Char, P (op.encode p.1 ++ ',' :: op.encode p.2) := fun p =>
    h.append (h.encode p.1) (h.append h.comma (h.encode p.2))
  intro piece hpiece
  cases m with
  | text s =>
    rw [writtenPieces, List.mem_singleton] at hpiece
    rw [hpiece]
    exact h.scalar hname s
  | items texts =>
    unfold writtenPieces at hpiece
    dsimp only at hpiece
    split at hpiece
    · obtain ⟨text, -, rfl⟩ := List.mem_map.mp hpiece
      exact h.headed hname (h.encode text)
    · rw [List.mem_singleton] at hpiece
      rw [hpiece]
      exact h.headed hname (h.joined h.comma (List.forall_mem_map.mpr fun text _ => h.encode text))
  | entries pairs =>
    unfold writtenPieces at hpiece
    dsimp only at hpiece
    split at hpiece
    · obtain ⟨p, -, rfl⟩ := List.mem_map.mp hpiece
      exact h.assigned (h.encode p.1) (h.encode p.2)
    · rw [List.mem_singleton] at hpiece
      rw [hpiece]
      exact h.headed hname (h.joined h.comma (List.forall_mem_map.mpr fun p _ => hentry p))

end Operator.Upholds

section
variable {e : Expression} (values : Fields)

theorem Expression.forall_pieces (h : e.operator.Upholds P)
    (hname : e.operator.isNamed = true → ∀ v ∈ e.vars, P v.name.toList) :
    ∀ piece ∈ e.pieces values, P piece := by
  intro piece hpiece
  obtain ⟨⟨v, m⟩, hm, hpiece⟩ := List.mem_flatMap.mp hpiece
  have hv := (Expression.mem_meanings.mp hm).1
  exact h.pieces (fun hop => hname hop v hv) m piece hpiece

theorem Expression.expand_upholds (h : e.operator.Upholds P) (hlead : P e.operator.lead)
    (hseparator : P e.operator.separator)
    (hname : e.operator.isNamed = true → ∀ v ∈ e.vars, P v.name.toList) : P (e.expand values) := by
  rw [Expression.expand_eq_pieces]
  split
  · exact h.nil
  · exact h.append hlead (h.joined hseparator (Expression.forall_pieces values h hname))

end

end

/-! ## Characters -/

/-- A character of a name. -/
def IsWordChar (c : Char) : Prop := c.isAlphanum = true ∨ c = '_' ∨ c = '.'

/-- The characters that an operator may write beside letters and digits. -/
def Operator.characters (op : Operator) : List Char :=
  ['-', '.', '_', '~', '%', ',', '='] ++ op.lead ++ op.separator ++
    if op.keepsReserved then reservedCharacters else []

def Operator.Writes (op : Operator) (c : Char) : Prop := c.isAlphanum = true ∨ c ∈ op.characters

/-- The characters that part a path from what follows it, and the parts of these from each other. -/
def delimiters : List Char := ['/', '?', '#', '&', ';']

theorem writes_of_keeps {op : Operator} {c : Char} (h : op.keeps c = true) : op.Writes c := by
  simp only [Operator.keeps, Percent.isUnreserved, Bool.or_eq_true, Bool.and_eq_true,
    decide_eq_true_eq, List.contains_iff_mem] at h
  unfold Operator.Writes Operator.characters
  rcases h with ((((halphanum | hmark) | hmark) | hmark) | hmark) | ⟨hop, hmark | hreserved⟩
  · exact .inl halphanum
  · simp [hmark]
  · simp [hmark]
  · simp [hmark]
  · simp [hmark]
  · simp [hmark]
  · simp [hop, hreserved]

theorem keeps_of_hex (op : Operator) {c : Char} (h : isHexDigit c = true) : op.keeps c = true := by
  simp [Operator.keeps, Percent.isUnreserved, isAlphanum_of_isHexDigit h]

theorem keeps_upper (op : Operator) {n : Nat} (hn : n < 16) : op.keeps (Hex.upper n) = true :=
  keeps_of_hex op (upper_hex n hn).1

/-- What holds of the characters that an operator keeps holds of all that it encodes. -/
theorem upholds_forall {op : Operator} {Q : Char → Prop} (hkept : ∀ c, op.keeps c = true → Q c)
    (hpercent : Q '%') (hcomma : Q ',') (hequals : Q '=') :
    op.Upholds fun text => ∀ c ∈ text, Q c where
  nil := by simp
  append ha hb := by
    intro c hc
    exact (List.mem_append.mp hc).elim (ha c) (hb c)
  comma := by simpa using hcomma
  equals := by simpa using hequals
  encode text := by
    intro c hc
    rcases Percent.mem_encode hc with hkeep | rfl | ⟨n, hn, rfl⟩
    · exact hkept c hkeep
    · exact hpercent
    · exact hkept _ (keeps_upper op hn)

theorem upholds_writes (op : Operator) : op.Upholds fun text => ∀ c ∈ text, op.Writes c := by
  apply upholds_forall
  · exact fun c => writes_of_keeps
  all_goals simp [Operator.Writes, Operator.characters]

theorem upholds_tripled {op : Operator} (hop : op.keepsReserved = false) : op.Upholds Tripled where
  nil := tripled_of_plain (by simp)
  append := Tripled.append
  comma := tripled_of_plain (by simp)
  equals := tripled_of_plain (by simp)
  encode := by
    apply tripled_encode
    simp [Operator.keeps, hop, Percent.isUnreserved]

theorem notMem_delimiters {c : Char} (h : Percent.isUnreserved c = true) : c ∉ delimiters := by
  intro hmem
  simp only [delimiters, List.mem_cons, List.not_mem_nil, or_false] at hmem
  rcases hmem with rfl | rfl | rfl | rfl | rfl <;> exact absurd h (by decide)

theorem upholds_undelimited {op : Operator} (hop : op.keepsReserved = false) :
    op.Upholds fun text => ∀ c ∈ text, c ∉ delimiters := by
  have hkeeps : ∀ c, op.keeps c = Percent.isUnreserved c := by simp [Operator.keeps, hop]
  apply upholds_forall
  · exact fun c hc => notMem_delimiters (hkeeps c ▸ hc)
  all_goals simp [delimiters]

/-! ## Delimiters -/

/-- How many pieces there are: one for each member of a composite that is exploded. -/
def Variable.slots (v : Variable) : Meaning → Nat
  | .text _ => 1
  | m => if v.modifier = .explode then m.members.length else 1

theorem length_writtenPieces (op : Operator) (v : Variable) (m : Meaning) :
    (writtenPieces op v m).length = v.slots m := by
  by_cases hexplode : v.modifier = .explode
  · cases m <;> simp [writtenPieces, Variable.slots, Meaning.members, hexplode]
  · cases m <;> simp [writtenPieces, Variable.slots, hexplode]

/-- How many pieces the variables that stand for something have. -/
def slotCount : List (Variable × Meaning) → Nat
  | [] => 0
  | (v, m) :: more => v.slots m + slotCount more

/-- What an operator itself writes around so many pieces. -/
def Operator.marks (op : Operator) : Nat → List Char
  | 0 => []
  | n + 1 => op.lead ++ (List.replicate n op.separator).flatten

theorem Expression.length_pieces (e : Expression) (values : Fields) :
    (e.pieces values).length = slotCount (e.meanings values) := by
  unfold Expression.pieces
  induction e.meanings values with
  | nil => rfl
  | cons r more ih => rw [List.flatMap_cons, List.length_append, length_writtenPieces, ih, slotCount]

theorem filter_joined {p : Char → Bool} {sep text : List Char} {more : List (List Char)}
    (h : ∀ t ∈ text :: more, t.filter p = []) :
    (joined sep (text :: more)).filter p = (List.replicate more.length sep).flatten.filter p := by
  rw [joined_eq, List.filter_append, h text List.mem_cons_self, List.nil_append]
  replace h := fun t ht => h t (List.mem_cons_of_mem text ht)
  induction more with
  | nil => rfl
  | cons next more ih =>
    rw [List.flatMap_cons, List.filter_append, List.filter_append, h next List.mem_cons_self,
      ih fun t ht => h t (List.mem_cons_of_mem next ht), List.length_cons, List.replicate_succ,
      List.flatten_cons, List.filter_append, List.append_nil]

theorem Expression.filter_expand {e : Expression} {values : Fields} {p : Char → Bool}
    (h : ∀ piece ∈ e.pieces values, piece.filter p = []) :
    (e.expand values).filter p = (e.operator.marks (slotCount (e.meanings values))).filter p := by
  rw [← e.length_pieces, Expression.expand_eq_pieces]
  cases hp : e.pieces values with
  | nil => rfl
  | cons first more =>
    rw [hp] at h
    rw [if_neg (List.cons_ne_nil _ _), List.filter_append, filter_joined h, List.length_cons,
      Operator.marks, List.filter_append]

/-! ## The law -/

/-- Visible ASCII without braces and double quotes. -/
def IsUriChar (c : Char) : Prop := 0x20 < c.toNat ∧ c.toNat < 0x7F ∧ c ∉ ['{', '}', '"']

instance (c : Char) : Decidable (IsUriChar c) := inferInstanceAs (Decidable (_ ∧ _ ∧ _))

theorem isUriChar_of_writes {op : Operator} {c : Char} (h : op.Writes c) : IsUriChar c := by
  rcases h with halphanum | hlisted
  · have hbounds := (isAlphanum_iff c).mp halphanum
    have hbraces : '{'.toNat = 123 ∧ '}'.toNat = 125 ∧ '"'.toNat = 34 := by decide
    refine ⟨by omega, by omega, ?_⟩
    simp only [List.mem_cons, List.not_mem_nil, or_false]
    rintro (rfl | rfl | rfl) <;> omega
  · have hall : op.characters.all (decide <| IsUriChar ·) = true := by cases op <;> decide
    exact of_decide_eq_true (List.all_eq_true.mp hall c hlisted)

theorem ne_apostrophe_of_writes {op : Operator} (hop : op.keepsReserved = false) {c : Char}
    (h : op.Writes c) : c ≠ '\'' := by
  rcases h with halphanum | hlisted
  · rintro rfl
    exact absurd halphanum (by decide)
  · have hall : op.characters.all (· != '\'') = true := by
      revert hop
      cases op <;> decide
    simpa using List.all_eq_true.mp hall c hlisted

/-- What an expression writes stays among the characters of a URI. Unless it keeps reserved
characters, its triplets are whole and no value brings a delimiter into it. -/
structure IsConfined (e : Expression) (values : Fields) (text : List Char) : Prop where
  written : ∀ c ∈ text, e.operator.Writes c
  visible : ∀ c ∈ text, IsUriChar c
  /-- An apostrophe is a reserved character. -/
  unquoted : e.operator.keepsReserved = false → '\'' ∉ text
  tripled : e.operator.keepsReserved = false → Tripled text
  delimited : e.operator.keepsReserved = false →
    text.filter (· ∈ delimiters) =
      (e.operator.marks (slotCount (e.meanings values))).filter (· ∈ delimiters)

theorem isConfined_expand {e : Expression} (values : Fields)
    (h : ∀ v ∈ e.vars, ∀ c ∈ v.name.toList, IsWordChar c) :
    IsConfined e values (e.expand values) := by
  have hname : ∀ v ∈ e.vars, ∀ c ∈ v.name.toList, Percent.isUnreserved c = true := by
    intro v hv c hc
    rcases h v hv c hc with halphanum | rfl | rfl
    · simp [Percent.isUnreserved, halphanum]
    · decide
    · decide
  have hwritten : ∀ c ∈ e.expand values, e.operator.Writes c := by
    apply Expression.expand_upholds values (upholds_writes e.operator)
    · exact fun c hc => .inr (by simp [Operator.characters, hc])
    · exact fun c hc => .inr (by simp [Operator.characters, hc])
    · exact fun _ v hv c hc => writes_of_keeps (by simp [Operator.keeps, hname v hv c hc])
  constructor
  · exact hwritten
  · exact fun c hc => isUriChar_of_writes (hwritten c hc)
  · exact fun hop hmem => ne_apostrophe_of_writes hop (hwritten _ hmem) rfl
  · intro hop
    apply Expression.expand_upholds values (upholds_tripled hop)
    · exact tripled_of_plain (by cases e.operator <;> decide)
    · exact tripled_of_plain (by cases e.operator <;> decide)
    · intro _ v hv
      exact tripled_of_plain fun hmem => absurd (hname v hv _ hmem) (by decide)
  · intro hop
    apply Expression.filter_expand
    intro piece hpiece
    have hplain := Expression.forall_pieces values (upholds_undelimited hop)
      (fun _ v hv c hc => notMem_delimiters (hname v hv c hc)) piece hpiece
    simpa using hplain

/-- Whatever the values are, each expression of a template with names of letters, digits, `_` and
`.` writes characters of a URI and no others. Unless it keeps reserved characters, it writes the
delimiters of its operator and no others. -/
theorem an_expression_stays_in_its_place (t : Template) (values : Fields)
    (h : ∀ name ∈ t.variableNames, ∀ c ∈ name.toList, IsWordChar c) :
    ∀ e, .expression e ∈ t.parts → IsConfined e values (Part.expand values (.expression e)) := by
  intro e he
  apply isConfined_expand
  intro v hv
  exact h v.name (mem_variableNames.mpr ⟨.expression e, he, v, hv, rfl⟩)

/-- Values with all that could end a path, a query or a pair of it, in every kind of value. -/
theorem a_query_that_nothing_breaks_out_of :
    let t := Template.ofString "/files{/dir*}{?q,filter*,tag}{+rest}"
    let values : Fields :=
      [("dir", .array [.string "../etc", .string "a b"]), ("q", .string "x&admin=1#\"é%"),
        ("filter", .object [("k;{}", .string "?"), ("n", .bool true)]),
        ("tag", .array [.string "'", .string "%2F"]), ("rest", .string "/{é}'")]
    let e : Expression := ⟨.query, [⟨"q", .none⟩, ⟨"filter", .explode⟩, ⟨"tag", .none⟩]⟩
    let text := "?q=x%26admin%3D1%23%22%C3%A9%25&k%3B%7B%7D=%3F&n=true&tag=%27,%252F".toList
    (∀ name ∈ t.variableNames, ∀ c ∈ name.toList, IsWordChar c) ∧ .expression e ∈ t.parts ∧
      Part.expand values (.expression e) = text ∧ IsConfined e values text ∧
      text.filter (· ∈ delimiters) = ['?', '&', '&', '&'] ∧
      t.expand values = "/files/..%2Fetc/a%20b".toList ++ text ++ "/%7B%C3%A9%7D'".toList := by
  intro t values e text
  have hnames : t.variableNames = ["dir", "q", "filter", "tag", "rest"] := by decide +kernel
  have hword : ∀ name ∈ t.variableNames, ∀ c ∈ name.toList, IsWordChar c := by
    rw [hnames]
    simp [IsWordChar]
  have he : .expression e ∈ t.parts := by decide +kernel
  have htext : Part.expand values (.expression e) = text := by decide +kernel
  have hconfined := an_expression_stays_in_its_place t values hword e he
  rw [htext] at hconfined
  refine ⟨hword, he, htext, hconfined, ?_, by decide +kernel⟩
  rw [hconfined.delimited rfl]
  decide

end HttpCalls
