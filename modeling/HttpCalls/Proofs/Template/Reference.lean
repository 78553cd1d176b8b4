-- The expansion of an expression as the appendix A of RFC 6570 describes it: a table with one
-- row for each operator, and a result to which the variables append from left to right.
-- Expressions expand as described, but for the keys of objects, which are always encoded like
-- values.
import HttpCalls.Proofs.Template.NamedPairs
import HttpCalls.Proofs.Template.Written

namespace HttpCalls

open Text

/-! ## The reference algorithm -/

namespace Reference

/-- What may stand unencoded in a value: unreserved characters (U), or with them reserved
characters and triplets (U+R). -/
inductive Allow
  | unreserved
  | reserved
deriving DecidableEq, Repr

/-- What an operator appends beside the values. -/
structure Row where
  first : List Char
  sep : List Char
  named : Bool
  ifEmpty : List Char
  allow : Allow

/-- The table. -/
def row : Operator → Row
  | .simple => ⟨[], [','], false, [], .unreserved⟩
  | .reserved => ⟨[], [','], false, [], .reserved⟩
  | .label => ⟨['.'], ['.'], false, [], .unreserved⟩
  | .path => ⟨['/'], ['/'], false, [], .unreserved⟩
  | .parameter => ⟨[';'], [';'], true, [], .unreserved⟩
  | .query => ⟨['?'], ['&'], true, ['='], .unreserved⟩
  | .continuation => ⟨['&'], ['&'], true, ['='], .unreserved⟩
  | .fragment => ⟨['#'], [','], false, [], .reserved⟩

def isUnreserved (c : Char) : Bool := c.isAlphanum || "-._~".toList.contains c

/-- The general delimiters and those that are left to the parts of a URI. -/
def isReserved (c : Char) : Bool := ":/?#[]@".toList.contains c || "!$&'()*+,;=".toList.contains c

def Allow.keeps (allow : Allow) (c : Char) : Bool :=
  isUnreserved c || (allow = .reserved && isReserved c)

/-- A text with triplets for the octets of all characters that are not allowed. -/
def pctEncode (allow : Allow) : List Char → List Char
  | '%' :: a :: b :: rest =>
    if allow = .reserved && isHexDigit a && isHexDigit b then '%' :: a :: b :: pctEncode allow rest
    else Percent.escaped '%' ++ pctEncode allow (a :: b :: rest)
  | c :: rest => (if allow.keeps c then [c] else Percent.escaped c) ++ pctEncode allow rest
  | [] => []

/-- A name as if it stood in the template as a literal. -/
def literal (name : List Char) : List Char := pctEncode .reserved name

/-- A character that is written alike in a literal and in a value. -/
def isPlain (c : Char) : Bool := c ≠ '%' && !isReserved c

/-- How the keys of an exploded object are written under an operator with names. -/
inductive Keys
  /-- Like literals, as the appendix has it. -/
  | asLiterals
  /-- Like values. -/
  | asValues
deriving DecidableEq, Repr

def Keys.encode (keys : Keys) (row : Row) (key : List Char) : List Char :=
  match keys with
  | .asLiterals => literal key
  | .asValues => pctEncode row.allow key

/-- A value behind its name. -/
def Row.assign (row : Row) (name value : List Char) : List Char :=
  name ++ if value = [] then row.ifEmpty else '=' :: value

/-- At most so many characters as the modifier says. -/
def limited (modifier : Modifier) (s : List Char) : List Char :=
  match modifier with
  | .limit count => if count < s.length then s.take count else s
  | _ => s

/-- What a variable with a value appends. -/
def expandVariable (keys : Keys) (row : Row) (v : Variable) : Meaning → List Char
  | .text s =>
    let value := pctEncode row.allow (limited v.modifier s)
    if row.named then row.assign (literal v.name.toList) value else value
  | .items texts =>
    if v.modifier = .explode then
      if row.named then
        joined row.sep (texts.map fun text => row.assign (literal v.name.toList) (pctEncode row.allow text))
      else joined row.sep (texts.map (pctEncode row.allow))
    else
      let value := joined [','] (texts.map (pctEncode row.allow))
      if row.named then row.assign (literal v.name.toList) value else value
  | .entries pairs =>
    if v.modifier = .explode then
      if row.named then
        joined row.sep (pairs.map fun (key, text) =>
          row.assign (keys.encode row key) (pctEncode row.allow text))
      else
        joined row.sep (pairs.map fun (key, text) =>
          pctEncode row.allow key ++ '=' :: pctEncode row.allow text)
    else
      let value := joined [','] (pairs.map fun (key, text) =>
        pctEncode row.allow key ++ ',' :: pctEncode row.allow text)
      if row.named then row.assign (literal v.name.toList) value else value

/-- The result so far, and whether a variable was expanded before. -/
structure Progress where
  result : List Char
  started : Bool

def Progress.append (row : Row) (p : Progress) (text : List Char) : Progress :=
  { result := p.result ++ (if p.started then row.sep else row.first) ++ text, started := true }

/-- One variable: without a value it is skipped. -/
def Progress.step (keys : Keys) (row : Row) (values : Fields) (p : Progress) (v : Variable) : Progress :=
  match (values.value? v.name).bind Json.meaning? with
  | none => p
  | some m => p.append row (expandVariable keys row v m)

/-- The expansion, with the variables from left to right. -/
def expand (keys : Keys) (e : Expression) (values : Fields) : List Char :=
  (e.vars.foldl (Progress.step keys (row e.operator) values) ⟨[], false⟩).result

/-! ## Rows and operators -/

theorem row_eq (op : Operator) :
    (row op).first = op.lead ∧ (row op).sep = op.separator ∧ (row op).named = op.isNamed ∧
      (row op).ifEmpty = op.ifEmpty ∧
      (row op).allow = if op.keepsReserved then .reserved else .unreserved := by
  cases op <;> exact ⟨rfl, rfl, rfl, rfl, rfl⟩

/-! ## Encoding -/

theorem isUnreserved_eq (c : Char) : isUnreserved c = Percent.isUnreserved c := by
  unfold isUnreserved Percent.isUnreserved
  rw [Bool.eq_iff_iff]
  simp [or_assoc]

theorem isReserved_eq (c : Char) : isReserved c = reservedCharacters.contains c := by
  unfold isReserved reservedCharacters
  rw [Bool.eq_iff_iff]
  simp [or_assoc]

theorem keeps_eq (op : Operator) {c : Char} (h : op.keepsReserved = true → c ≠ '%') :
    (row op).allow.keeps c = op.keeps c := by
  obtain ⟨-, -, -, -, hallow⟩ := row_eq op
  unfold Allow.keeps Operator.keeps
  rw [hallow, isUnreserved_eq, isReserved_eq]
  cases hop : op.keepsReserved with
  | false => simp
  | true => simp [h hop]

theorem pctEncode_plain {allow : Allow} {text : List Char} (h : allow = .reserved → '%' ∉ text) :
    pctEncode allow text = Percent.encode allow.keeps text := by
  fun_induction pctEncode allow text with
  | case1 a b rest htriplet ih =>
    simp only [Bool.and_eq_true, decide_eq_true_eq] at htriplet
    exact absurd List.mem_cons_self (h htriplet.1.1)
  | case2 a b rest htriplet ih =>
    have hpercent : allow.keeps '%' = false := by cases allow <;> decide
    have hrest := ih fun hallow hmem => h hallow (List.mem_cons_of_mem _ hmem)
    rw [hrest, Percent.encode_cons _ '%', hpercent]
    rfl
  | case3 c rest hc ih =>
    have hrest := ih fun hallow hmem => h hallow (List.mem_cons_of_mem _ hmem)
    rw [hrest]
    rfl
  | case4 => rfl

theorem encode_congr {p q : Char → Bool} {text : List Char} (h : ∀ c ∈ text, p c = q c) :
    Percent.encode p text = Percent.encode q text := by
  induction text with
  | nil => rfl
  | cons c rest ih =>
    have hrest := ih fun d hd => h d (List.mem_cons_of_mem _ hd)
    rw [Percent.encode_cons, Percent.encode_cons, h c List.mem_cons_self, hrest]

/-- Where an operator keeps reserved characters, it keeps the percent sign too. A text
without one is written as the table has it. -/
theorem pctEncode_eq (op : Operator) {text : List Char} (h : op.keepsReserved = true → '%' ∉ text) :
    pctEncode (row op).allow text = op.encode text := by
  obtain ⟨-, -, -, -, hallow⟩ := row_eq op
  have hplain : (row op).allow = .reserved → '%' ∉ text := by
    rw [hallow]
    cases hop : op.keepsReserved with
    | false => simp
    | true => exact fun _ => h hop
  rw [pctEncode_plain hplain]
  apply encode_congr
  intro c hc
  apply keeps_eq
  rintro hop rfl
  exact h hop hc

/-! ## Names and keys -/

theorem literal_cons {c : Char} (h : c ≠ '%') (rest : List Char) :
    literal (c :: rest) = (if Allow.keeps .reserved c then [c] else Percent.escaped c) ++ literal rest := by
  unfold literal
  rw [pctEncode]
  intro a b more hc _
  exact h hc

theorem literal_varchar {unit : List Char} (h : IsVarchar unit) (rest : List Char) :
    literal (unit ++ rest) = unit ++ literal rest := by
  cases h with
  | @char c h =>
    have hc : c ≠ '%' ∧ Allow.keeps .reserved c = true := by
      rcases h with h | rfl
      · refine ⟨?_, by simp [Allow.keeps, isUnreserved, h]⟩
        rintro rfl
        exact absurd h (by decide)
      · decide
    rw [List.singleton_append, literal_cons hc.1, if_pos hc.2]
  | triplet ha hb =>
    unfold literal
    simp [pctEncode, ha, hb]

/-- A name stands in a template as it is. -/
theorem literal_varname {name : List Char} (h : IsVarname name) : literal name = name := by
  induction h with
  | @last unit h =>
    have hunit := literal_varchar h []
    simpa [literal, pctEncode] using hunit
  | next h _ ih => rw [literal_varchar h, ih]
  | @dotted unit rest h _ ih =>
    have hdot : literal ('.' :: rest) = '.' :: literal rest := literal_cons (by decide) rest
    rw [literal_varchar h, hdot, ih]

theorem literal_key {op : Operator} (hop : op.isNamed = true) {key : List Char}
    (h : key.all isPlain = true) : literal key = op.encode key := by
  have hplain : ∀ c ∈ key, c ≠ '%' ∧ isReserved c = false := by
    simpa [isPlain] using h
  rw [literal, pctEncode_plain fun _ hmem => (hplain _ hmem).1 rfl]
  apply encode_congr
  intro c hc
  rw [keeps_of_named hop, Allow.keeps, (hplain c hc).2, isUnreserved_eq]
  simp

/-! ## One variable -/

theorem expandScalar_eq (op : Operator) (v : Variable) (s : List Char) :
    expandScalar op v s =
      if op.isNamed then op.pair v.name (op.encode (limited v.modifier s))
      else op.encode (limited v.modifier s) := by
  have hlimit : ∀ count, limited (.limit count) s = s.take count := by
    intro count
    by_cases hlong : count < s.length
    · exact if_pos hlong
    · exact (if_neg hlong).trans (List.take_of_length_le (Nat.le_of_not_lt hlong)).symm
  unfold expandScalar
  cases v.modifier with
  | limit count => simp only [hlimit]
  | _ => rfl

theorem mem_limited {modifier : Modifier} {s : List Char} {c : Char} (h : c ∈ limited modifier s) :
    c ∈ s := by
  unfold limited at h
  split at h
  · split at h
    · exact List.mem_of_mem_take h
    · exact h
  · exact h

section
variable {op : Operator} {v : Variable} {m : Meaning}

theorem assign_eq_pair (op : Operator) (name : String) (value : List Char) :
    (row op).assign name.toList value = op.pair name value := by
  obtain ⟨-, -, -, hifEmpty, -⟩ := row_eq op
  unfold Row.assign Operator.pair
  rw [hifEmpty]
  cases value <;> rfl

/-- Only a parameter of a path is written without `=` when its value is empty. -/
theorem assign_eq_equals (hop : op.isNamed = true) {value : List Char}
    (h : op = .parameter → value ≠ []) (name : List Char) :
    (row op).assign name value = name ++ '=' :: value := by
  unfold Row.assign
  split
  · rename_i hempty
    subst hempty
    have hother : op ≠ .parameter := fun heq => h heq rfl
    revert hop hother
    cases op <;> simp [Operator.isNamed, row]
  · rfl

theorem assign_eq_headed (hop : op.isNamed = true) {value : List Char}
    (h : op = .parameter → value ≠ []) (name : String) :
    (row op).assign name.toList value = op.headed name value := by
  rw [assign_eq_equals hop h, Operator.headed, if_pos hop]

/-- The meaning of a variable is written as the table has it: without percent signs where
reserved characters are kept, and without empty members where `=` is left out behind a name. -/
structure Suits (op : Operator) (m : Meaning) : Prop where
  plain : op.keepsReserved = true → ∀ text ∈ m.texts, '%' ∉ text
  filled : op = .parameter → [] ∉ m.members

theorem Suits.encode (h : Suits op m) {text : List Char} (hmem : text ∈ m.texts) :
    pctEncode (row op).allow text = op.encode text :=
  pctEncode_eq op fun hop => h.plain hop text hmem

theorem expandVariable_text (keys : Keys) {s : List Char} (hname : IsVarname v.name.toList)
    (h : Suits op (.text s)) :
    expandVariable keys (row op) v (.text s) = writtenAs op v (.text s) := by
  obtain ⟨-, -, hnamed, -, -⟩ := row_eq op
  have hencode : pctEncode (row op).allow (limited v.modifier s) = op.encode (limited v.modifier s) := by
    apply pctEncode_eq
    intro hop hmem
    exact h.plain hop s (by simp [Meaning.texts]) (mem_limited hmem)
  rw [expandVariable, writtenAs, expandScalar_eq, hencode, hnamed, literal_varname hname, assign_eq_pair]

theorem expandVariable_items (keys : Keys) {texts : List (List Char)}
    (hname : IsVarname v.name.toList) (h : Suits op (.items texts)) (hsome : texts ≠ []) :
    expandVariable keys (row op) v (.items texts) = writtenAs op v (.items texts) := by
  obtain ⟨-, hsep, hnamed, -, -⟩ := row_eq op
  have hencode : texts.map (pctEncode (row op).allow) = texts.map op.encode := by
    apply List.map_congr_left
    intro text htext
    exact h.encode (by simpa [Meaning.texts, Meaning.keys, Meaning.members] using htext)
  simp only [expandVariable, writtenAs]
  rw [hnamed, hsep, literal_varname hname, hencode]
  cases hop : op.isNamed with
  | false => simp [Operator.headed, hop]
  | true =>
    have hfilled : op = .parameter → ∀ text ∈ texts, op.encode text ≠ [] := by
      intro hparameter text htext hempty
      rw [encode_eq_nil hop] at hempty
      exact h.filled hparameter (hempty ▸ htext)
    have hmember : ∀ text ∈ texts,
        (row op).assign v.name.toList (pctEncode (row op).allow text) = op.headed v.name (op.encode text) := by
      intro text htext
      rw [h.encode (by simpa [Meaning.texts, Meaning.keys, Meaning.members] using htext)]
      exact assign_eq_headed hop (fun hparameter => hfilled hparameter text htext) v.name
    have hwhole : (row op).assign v.name.toList (joined [','] (texts.map op.encode)) =
        op.headed v.name (joined [','] (texts.map op.encode)) := by
      apply assign_eq_headed hop
      intro hparameter
      apply joined_ne_nil (by simpa using hsome)
      intro hmem
      obtain ⟨text, htext, hempty⟩ := List.mem_map.mp hmem
      exact hfilled hparameter text htext hempty
    rw [hwhole, List.map_congr_left hmember]
    simp

theorem expandVariable_entries {keys : Keys} {pairs : List (List Char × List Char)}
    (hname : IsVarname v.name.toList) (h : Suits op (.entries pairs)) (hsome : pairs ≠ [])
    (hkeys : op.isNamed = true → v.modifier = .explode →
      ∀ pair ∈ pairs, keys.encode (row op) pair.1 = op.encode pair.1) :
    expandVariable keys (row op) v (.entries pairs) = writtenAs op v (.entries pairs) := by
  obtain ⟨-, hsep, hnamed, -, -⟩ := row_eq op
  have hencode : ∀ pair ∈ pairs, pctEncode (row op).allow pair.1 = op.encode pair.1 ∧
      pctEncode (row op).allow pair.2 = op.encode pair.2 := by
    intro pair hpair
    have hkey : pair.1 ∈ (Meaning.entries pairs).keys := List.mem_map_of_mem hpair
    have hmember : pair.2 ∈ (Meaning.entries pairs).members := List.mem_map_of_mem hpair
    exact ⟨h.encode (List.mem_append_left _ hkey), h.encode (List.mem_append_right _ hmember)⟩
  have hwritten : ∀ sign : Char,
      (pairs.map fun (key, text) => pctEncode (row op).allow key ++ sign :: pctEncode (row op).allow text) =
        pairs.map fun (key, text) => op.encode key ++ sign :: op.encode text := by
    intro sign
    apply List.map_congr_left
    intro pair hpair
    obtain ⟨hkey, htext⟩ := hencode pair hpair
    simp only [hkey, htext]
  simp only [expandVariable, writtenAs]
  rw [hnamed, hsep, literal_varname hname, hwritten, hwritten]
  cases hop : op.isNamed with
  | false => simp [Operator.headed, hop]
  | true =>
    have hwhole : (row op).assign v.name.toList
          (joined [','] (pairs.map fun (key, text) => op.encode key ++ ',' :: op.encode text)) =
        op.headed v.name
          (joined [','] (pairs.map fun (key, text) => op.encode key ++ ',' :: op.encode text)) := by
      apply assign_eq_headed hop
      intro _
      apply joined_ne_nil (by simpa using hsome)
      simp
    by_cases hexplode : v.modifier = .explode
    · have hmember : ∀ pair ∈ pairs,
          (row op).assign (keys.encode (row op) pair.1) (pctEncode (row op).allow pair.2) =
            op.encode pair.1 ++ '=' :: op.encode pair.2 := by
        intro pair hpair
        rw [hkeys hop hexplode pair hpair, (hencode pair hpair).2]
        apply assign_eq_equals hop
        intro hparameter hempty
        rw [encode_eq_nil hop] at hempty
        exact h.filled hparameter (hempty ▸ List.mem_map_of_mem hpair)
      rw [List.map_congr_left hmember]
      simp [hexplode]
    · rw [hwhole]
      simp [hexplode]

end

/-! ## All variables -/

theorem append_foldl (row : Row) (texts : List (List Char)) (result : List Char) :
    (texts.foldl (Progress.append row) ⟨result, true⟩).result =
      result ++ texts.flatMap fun text => row.sep ++ text := by
  induction texts generalizing result with
  | nil => simp
  | cons text more ih => simp [Progress.append, ih]

/-- The separator stands before each variable that is expanded but the first. -/
theorem expand_eq (keys : Keys) (e : Expression) (values : Fields) :
    expand keys e values =
      if e.meanings values = [] then []
      else (row e.operator).first ++ joined (row e.operator).sep
        ((e.meanings values).map fun (v, m) => expandVariable keys (row e.operator) v m) := by
  have hskipped : ∀ p : Progress, e.vars.foldl (Progress.step keys (row e.operator) values) p =
      ((e.meanings values).map fun (v, m) => expandVariable keys (row e.operator) v m).foldl
        (Progress.append (row e.operator)) p := by
    unfold Expression.meanings
    induction e.vars with
    | nil => exact fun p => rfl
    | cons v more ih =>
      intro p
      rw [List.foldl_cons, ih, List.filterMap_cons]
      unfold Progress.step
      cases (values.value? v.name).bind Json.meaning? with
      | none => rfl
      | some m => rfl
  unfold expand
  rw [hskipped]
  cases hm : e.meanings values with
  | nil => rfl
  | cons first more =>
    rw [if_neg (List.cons_ne_nil _ _), List.map_cons, List.foldl_cons, joined_eq]
    simp [Progress.append, append_foldl]

/-- A proper expression whose values suit its operator. -/
structure Applies (e : Expression) (values : Fields) : Prop where
  proper : ∀ v ∈ e.vars, v.IsProper
  suits : ∀ p ∈ e.meanings values, Suits e.operator p.2

/-- The keys that stand for names are written alike as literals and as values. -/
def HasPlainKeys (e : Expression) (values : Fields) : Prop :=
  e.operator.isNamed = true → ∀ p ∈ e.meanings values, p.1.modifier = .explode →
    ∀ key ∈ p.2.keys, key.all isPlain = true

theorem expand_eq_of_keys {keys : Keys} {e : Expression} {values : Fields} (h : Applies e values)
    (hkeys : e.operator.isNamed = true → ∀ p ∈ e.meanings values, p.1.modifier = .explode →
      ∀ key ∈ p.2.keys, keys.encode (row e.operator) key = e.operator.encode key) :
    e.template.expand values = expand keys e values := by
  obtain ⟨hfirst, hsep, -, -, -⟩ := row_eq e.operator
  have hvariable : ∀ p ∈ e.meanings values,
      expandVariable keys (row e.operator) p.1 p.2 = writtenAs e.operator p.1 p.2 := by
    rintro ⟨v, m⟩ hm
    have hmeaning := Expression.mem_meanings.mp hm
    have hname := (h.proper v hmeaning.1).name
    obtain ⟨-, value, -, hvalue⟩ := hmeaning
    obtain ⟨hitems, hentries⟩ := meaning?_ne_nil hvalue
    have hsuits := h.suits (v, m) hm
    cases m with
    | text s => exact expandVariable_text keys hname hsuits
    | items texts => exact expandVariable_items keys hname hsuits fun hnil => hitems (hnil ▸ rfl)
    | entries pairs =>
      apply expandVariable_entries hname hsuits fun hnil => hentries (hnil ▸ rfl)
      intro hop hexplode pair hpair
      exact hkeys hop (v, .entries pairs) hm hexplode pair.1 (List.mem_map_of_mem hpair)
  rw [Expression.expand_template h.proper, Expression.expand_eq, expand_eq, hfirst, hsep,
    List.map_congr_left hvariable]

end Reference

/-- An expression expands as the appendix describes it, with the keys of exploded objects written
like values. So it expands as described to the letter when these keys are plain. -/
theorem expressions_expand_as_the_reference_does (e : Expression) (values : Fields)
    (h : Reference.Applies e values) :
    e.template.expand values = Reference.expand .asValues e values ∧
      (Reference.HasPlainKeys e values → e.template.expand values = Reference.expand .asLiterals e values) := by
  constructor
  · apply Reference.expand_eq_of_keys h
    intro hop p hp hexplode key hkey
    exact Reference.pctEncode_eq e.operator (by simp [keepsReserved_of_named hop])
  · intro hplain
    apply Reference.expand_eq_of_keys h
    intro hop p hp hexplode key hkey
    exact Reference.literal_key hop (hplain hop p hp hexplode key hkey)

/-- A limit that cuts, one on a list, members and variables without a value, and an empty member. -/
theorem a_query_of_all_kinds_of_values :
    let e : Expression := ⟨.query, [⟨"gone", .none⟩, ⟨"city", .limit 3⟩, ⟨"tag", .limit 3⟩,
      ⟨"tag", .explode⟩, ⟨"filter", .explode⟩, ⟨"filter", .none⟩]⟩
    let values : Fields :=
      [("filter", .object [("age", .number (.whole 30 (by decide))), ("gone", .null), ("of", .string "A/B")]),
        ("city", .string "Köln am Rhein"), ("tag", .array [.string "", .null, .bool true])]
    let text := "?city=K%C3%B6l&tag=,true&tag=&tag=true&age=30&of=A%2FB&filter=age,30,of,A%2FB".toList
    e.template.text = "{?gone,city:3,tag:3,tag*,filter*,filter}".toList ∧
      Reference.Applies e values ∧ Reference.HasPlainKeys e values ∧
        Reference.expand .asLiterals e values = text ∧ e.template.expand values = text := by
  intro e values text
  have hproper : ∀ v ∈ e.vars, v.IsProper := by
    intro v hv
    constructor
    · apply isVarname_of_letters
      · revert v
        decide
      · revert v
        decide
    · revert v
      simp [e]
  have happlies : Reference.Applies e values := by
    constructor
    · exact hproper
    · rintro p -
      constructor
      · simp [e, Operator.keepsReserved]
      · simp [e]
  have hkeys : Reference.HasPlainKeys e values := by
    intro _
    decide
  have htext : Reference.expand .asLiterals e values = text := by decide +kernel
  refine ⟨by decide, happlies, hkeys, htext, ?_⟩
  rw [← htext]
  exact (expressions_expand_as_the_reference_does e values happlies).2 hkeys

/-- A slash in such a key stays in a literal, and it is encoded in an expansion. -/
theorem a_key_with_a_slash_is_encoded :
    let e : Expression := ⟨.query, [⟨"m", .explode⟩]⟩
    let values : Fields := [("m", .object [("a/b", .string "c")])]
    e.template.text = "{?m*}".toList ∧ Reference.Applies e values ∧
      Reference.expand .asLiterals e values = "?a/b=c".toList ∧
        e.template.expand values = "?a%2Fb=c".toList := by
  intro e values
  have hproper : ∀ v ∈ e.vars, v.IsProper := by
    intro v hv
    cases List.mem_singleton.mp hv
    exact ⟨isVarname_of_letters (by decide) (by decide), by simp⟩
  refine ⟨by decide, ⟨hproper, ?_⟩, by decide, ?_⟩
  · rintro p -
    constructor
    · simp [e, Operator.keepsReserved]
    · simp [e]
  · rw [Expression.expand_template hproper]
    decide

end HttpCalls
