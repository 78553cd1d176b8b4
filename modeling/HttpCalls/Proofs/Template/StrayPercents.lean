-- Percent signs where reserved characters are kept. The reference encodes the signs that no two
-- hexadecimal digits follow, and an expansion keeps them. The two agree when all percent signs
-- of the values stand at the heads of triplets.
import HttpCalls.Proofs.Template.Alphabet
import HttpCalls.Proofs.Template.Reference

namespace HttpCalls

open Text

/-! ## Stray percent signs -/

/-- So many hexadecimal digits stand at the head. -/
def hexFollows : Nat → List Char → Bool
  | 0, _ => true
  | _ + 1, [] => false
  | n + 1, c :: rest => isHexDigit c && hexFollows n rest

/-- The text with each percent sign encoded that no two hexadecimal digits follow. -/
def marked : List Char → List Char
  | [] => []
  | c :: rest => (if c = '%' ∧ hexFollows 2 rest = false then "%25".toList else [c]) ++ marked rest

/-- A character that is no part of a triplet. -/
def IsMark (c : Char) : Prop := c ≠ '%' ∧ isHexDigit c = false

instance (c : Char) : Decidable (IsMark c) := inferInstanceAs (Decidable (_ ∧ _))

theorem ne_percent_of_hex {c : Char} (h : isHexDigit c = true) : c ≠ '%' := by
  rintro rfl
  exact absurd h (by decide)

theorem hexFollows_two {text : List Char} :
    hexFollows 2 text = true ↔
      ∃ a b rest, text = a :: b :: rest ∧ isHexDigit a = true ∧ isHexDigit b = true := by
  rcases text with _ | ⟨a, _ | ⟨b, rest⟩⟩
  · simp [hexFollows]
  · simp [hexFollows]
  · simp [hexFollows, and_assoc]

theorem hexFollows_append {n : Nat} {text : List Char} (h : hexFollows n text = true)
    (more : List Char) : hexFollows n (text ++ more) = true := by
  induction n generalizing text with
  | zero => rfl
  | succ n ih =>
    cases text with
    | nil => cases h
    | cons c rest =>
      rw [hexFollows, Bool.and_eq_true] at h
      simp [hexFollows, h.1, ih h.2]

theorem hexFollows_append_cons {c : Char} (hc : IsMark c) (n : Nat) (text more : List Char) :
    hexFollows n (text ++ c :: more) = hexFollows n text := by
  induction n generalizing text with
  | zero => rfl
  | succ n ih =>
    cases text with
    | nil => simp [hexFollows, hc.2]
    | cons d rest => simp [hexFollows, ih]

/-! ## Whole triplets -/

theorem tripled_nil : Tripled [] := tripled_of_plain (by simp)

theorem tripled_cons {c : Char} {rest : List Char} :
    Tripled (c :: rest) ↔ (c = '%' → hexFollows 2 rest = true) ∧ Tripled rest := by
  constructor
  · intro h
    constructor
    · rintro rfl
      exact hexFollows_two.mpr (h [] rest rfl)
    · rintro before after rfl
      exact h (c :: before) after rfl
  · rintro ⟨hhead, hrest⟩ before after heq
    cases before with
    | nil =>
      rw [List.nil_append, List.cons.injEq] at heq
      exact hexFollows_two.mp (heq.2 ▸ hhead heq.1)
    | cons d before =>
      rw [List.cons_append, List.cons.injEq] at heq
      exact hrest before after heq.2

theorem tripled_append_iff {a b : List Char} (ha : Tripled a) : Tripled (a ++ b) ↔ Tripled b := by
  constructor
  · rintro h before after rfl
    exact h (a ++ before) after (List.append_assoc _ _ _).symm
  · exact ha.append

theorem tripled_append_cons {c : Char} (hc : IsMark c) {a b : List Char} :
    Tripled (a ++ c :: b) ↔ Tripled a ∧ Tripled b := by
  induction a with
  | nil => simp [tripled_cons, tripled_nil, hc.1]
  | cons d rest ih =>
    rw [List.cons_append, tripled_cons, tripled_cons, hexFollows_append_cons hc, ih, and_assoc]

theorem tripled_joined {c : Char} (hc : IsMark c) {texts : List (List Char)} :
    Tripled (joined [c] texts) ↔ ∀ text ∈ texts, Tripled text := by
  induction texts with
  | nil => simp [joined, tripled_nil]
  | cons text more ih =>
    by_cases hmore : more = []
    · simp [hmore, joined]
    · rw [joined_cons hmore, List.append_assoc, List.singleton_append, tripled_append_cons hc, ih,
        List.forall_mem_cons]

/-! ## Marked texts -/

theorem marked_append {a : List Char} (ha : Tripled a) (b : List Char) :
    marked (a ++ b) = a ++ marked b := by
  induction a with
  | nil => rfl
  | cons c rest ih =>
    obtain ⟨hhead, hrest⟩ := tripled_cons.mp ha
    have hkept : ¬(c = '%' ∧ hexFollows 2 (rest ++ b) = false) := by
      rintro ⟨hc, hstray⟩
      rw [hexFollows_append (hhead hc)] at hstray
      cases hstray
    rw [List.cons_append, marked, if_neg hkept, ih hrest, List.singleton_append, List.cons_append]

theorem marked_append_cons {c : Char} (hc : IsMark c) (a b : List Char) :
    marked (a ++ c :: b) = marked a ++ c :: marked b := by
  induction a with
  | nil => simp [marked, hc.1]
  | cons d rest ih => rw [List.cons_append, marked, marked, hexFollows_append_cons hc, ih, List.append_assoc]

theorem marked_joined {c : Char} (hc : IsMark c) (texts : List (List Char)) :
    marked (joined [c] texts) = joined [c] (texts.map marked) := by
  induction texts with
  | nil => rfl
  | cons text more ih =>
    by_cases hmore : more = []
    · simp [hmore, joined]
    · rw [joined_cons hmore, List.append_assoc, List.singleton_append, marked_append_cons hc, ih,
        List.map_cons, joined_cons (by simpa using hmore), List.append_assoc, List.singleton_append]

theorem tripled_marked (text : List Char) : Tripled (marked text) := by
  induction text with
  | nil => exact tripled_nil
  | cons c rest ih =>
    rw [marked]
    split
    · have hencoded : Tripled "%25".toList := tripled_triplet 0x25
      exact hencoded.append ih
    · rename_i hkept
      apply tripled_cons.mpr
      refine ⟨?_, ih⟩
      rintro rfl
      -- the two digits behind a sign that is kept are kept with it
      have hdigits : hexFollows 2 rest = true := by simpa using hkept
      obtain ⟨a, b, more, rfl, ha, hb⟩ := hexFollows_two.mp hdigits
      have hplain : Tripled [a, b] := by
        apply tripled_of_plain
        simp [(ne_percent_of_hex ha).symm, (ne_percent_of_hex hb).symm]
      have hmore := marked_append hplain more
      rw [List.cons_append, List.cons_append, List.nil_append] at hmore
      rw [hmore]
      exact hexFollows_two.mpr ⟨a, b, _, rfl, ha, hb⟩

/-- The texts that need no mark are those of whole triplets. -/
theorem eq_marked {text : List Char} : text = marked text ↔ Tripled text := by
  constructor
  · intro h
    rw [h]
    exact tripled_marked text
  · intro h
    have hnothing := marked_append h []
    simpa [marked] using hnothing.symm

instance (text : List Char) : Decidable (Tripled text) := decidable_of_iff _ eq_marked

/-! ## Encoded texts -/

theorem escaped_eq_cons (c : Char) : ∃ rest, Percent.escaped c = '%' :: rest := by
  obtain ⟨b, more, hocts⟩ := List.exists_cons_of_ne_nil (String.utf8EncodeChar_ne_nil (c := c))
  unfold Percent.escaped
  rw [hocts, List.flatMap_cons]
  exact ⟨_, rfl⟩

theorem literal_percent (rest : List Char) :
    Reference.literal ('%' :: rest) =
      (if hexFollows 2 rest then ['%'] else "%25".toList) ++ Reference.literal rest := by
  by_cases hdigits : hexFollows 2 rest = true
  · obtain ⟨a, b, more, rfl, ha, hb⟩ := hexFollows_two.mp hdigits
    have htriplet := Reference.literal_varchar (.triplet ha hb) more
    have hfirst := Reference.literal_varchar (.char (.inl (isAlphanum_of_isHexDigit ha))) (b :: more)
    have hsecond := Reference.literal_varchar (.char (.inl (isAlphanum_of_isHexDigit hb))) more
    simp only [List.cons_append, List.nil_append] at htriplet hfirst hsecond
    rw [htriplet, hfirst, hsecond, if_pos hdigits]
    rfl
  · have hescaped : Percent.escaped '%' = "%25".toList := by decide
    have hkept : Reference.Allow.keeps .reserved '%' = false := by decide
    unfold Reference.literal
    rw [if_neg hdigits]
    rcases rest with _ | ⟨a, _ | ⟨b, more⟩⟩
    · rfl
    · simp [Reference.pctEncode, hkept, hescaped]
    · have hstray : isHexDigit a = true → isHexDigit b = false := by simpa [hexFollows] using hdigits
      rw [Reference.pctEncode, if_neg (by simpa using hstray), hescaped]

theorem hexFollows_encode (op : Operator) (n : Nat) (text : List Char) :
    hexFollows n (op.encode text) = hexFollows n text := by
  unfold Operator.encode
  induction n generalizing text with
  | zero => rfl
  | succ n ih =>
    cases text with
    | nil => rfl
    | cons c rest =>
      rw [Percent.encode_cons]
      split
      · rw [List.singleton_append, hexFollows, hexFollows, ih]
      · rename_i hkeep
        obtain ⟨more, hmore⟩ := escaped_eq_cons c
        have hc : isHexDigit c = false := by
          rw [← Bool.not_eq_true]
          exact fun hhex => hkeep (keeps_of_hex op hhex)
        rw [hmore, List.cons_append, hexFollows, hexFollows, hc]
        rfl

section
variable {op : Operator} (hop : op.keepsReserved = true)
include hop

theorem keeps_percent : op.keeps '%' = true := by simp [Operator.keeps, hop]

theorem tripled_encode_iff (text : List Char) : Tripled (op.encode text) ↔ Tripled text := by
  induction text with
  | nil => rfl
  | cons c rest ih =>
    have hfollows := hexFollows_encode op 2 rest
    unfold Operator.encode at ih hfollows ⊢
    rw [Percent.encode_cons]
    split
    · rw [List.singleton_append, tripled_cons, tripled_cons, hfollows, ih]
    · rename_i hkeep
      have hc : c ≠ '%' := fun hpercent => hkeep (hpercent ▸ keeps_percent hop)
      rw [tripled_append_iff (tripled_escaped c), tripled_cons, ih]
      simp [hc]

theorem pctEncode_eq_marked (text : List Char) :
    Reference.pctEncode (Reference.row op).allow text = marked (op.encode text) := by
  obtain ⟨-, -, -, -, hallow⟩ := Reference.row_eq op
  rw [hallow, if_pos hop]
  change Reference.literal text = marked (op.encode text)
  induction text with
  | nil => rfl
  | cons c rest ih =>
    by_cases hc : c = '%'
    · subst hc
      have hfollows := hexFollows_encode op 2 rest
      unfold Operator.encode at ih hfollows ⊢
      rw [literal_percent, Percent.encode_cons, if_pos (keeps_percent hop), List.singleton_append, marked,
        hfollows, ih]
      cases hexFollows 2 rest <;> rfl
    · have hkeeps := Reference.keeps_eq op fun _ => hc
      rw [hallow, if_pos hop] at hkeeps
      unfold Operator.encode at ih ⊢
      rw [Reference.literal_cons hc, hkeeps, Percent.encode_cons, ih]
      split
      · simp [marked, hc]
      · rw [marked_append (tripled_escaped c)]

end

/-! ## Variables -/

/-- What stands between a key and its text. -/
def Variable.sign (v : Variable) : Char := if v.modifier = .explode then '=' else ','

/-- What a variable writes without its name, with commas between the members. -/
def Variable.spread (v : Variable) (encode : List Char → List Char) : Meaning → List Char
  | .text s => encode (Reference.limited v.modifier s)
  | .items texts => joined [','] (texts.map encode)
  | .entries pairs => joined [','] (pairs.map fun p => encode p.1 ++ v.sign :: encode p.2)

/-- The texts of a meaning, with the limit of the variable. -/
def Variable.written (v : Variable) : Meaning → List (List Char)
  | .text s => [Reference.limited v.modifier s]
  | m => m.texts

theorem isMark_sign (v : Variable) : IsMark v.sign := by
  unfold Variable.sign
  split <;> decide

theorem marked_spread (v : Variable) (encode : List Char → List Char) (m : Meaning) :
    marked (v.spread encode m) = v.spread (fun s => marked (encode s)) m := by
  have hcomma : IsMark ',' := by decide
  cases m with
  | text s => rfl
  | items texts => simp [Variable.spread, marked_joined hcomma, Function.comp_def]
  | entries pairs =>
    simp [Variable.spread, marked_joined hcomma, marked_append_cons (isMark_sign v), Function.comp_def]

theorem tripled_spread {v : Variable} {encode : List Char → List Char} {m : Meaning} :
    Tripled (v.spread encode m) ↔ ∀ s ∈ v.written m, Tripled (encode s) := by
  have hcomma : IsMark ',' := by decide
  cases m with
  | text s => simp [Variable.spread, Variable.written]
  | items texts =>
    simp [Variable.spread, Variable.written, tripled_joined hcomma, Meaning.texts, Meaning.keys,
      Meaning.members]
  | entries pairs =>
    simp only [Variable.spread, Variable.written, tripled_joined hcomma, tripled_append_cons (isMark_sign v),
      List.forall_mem_map, Meaning.texts, Meaning.keys, Meaning.members, List.forall_mem_append, imp_and,
      forall_and]

section
variable {op : Operator} (hop : op.keepsReserved = true)
include hop

theorem shape_of_keepsReserved : op.isNamed = false ∧ op.separator = [','] := by
  revert hop
  cases op <;> decide

theorem writtenAs_eq_spread (v : Variable) (m : Meaning) : writtenAs op v m = v.spread op.encode m := by
  obtain ⟨hnamed, hsep⟩ := shape_of_keepsReserved hop
  cases m with
  | text s => simp [writtenAs, Variable.spread, Reference.expandScalar_eq, hnamed]
  | items texts => simp [writtenAs, Variable.spread, Operator.headed, hnamed, hsep]
  | entries pairs =>
    unfold Variable.spread Variable.sign
    by_cases hexplode : v.modifier = .explode
    · simp [writtenAs, hsep, hexplode]
    · simp [writtenAs, Operator.headed, hnamed, hexplode]

theorem expandVariable_eq_spread (keys : Reference.Keys) (v : Variable) (m : Meaning) :
    Reference.expandVariable keys (Reference.row op) v m =
      v.spread (Reference.pctEncode (Reference.row op).allow) m := by
  obtain ⟨hnamed, hsep⟩ := shape_of_keepsReserved hop
  obtain ⟨-, hsep', hnamed', -, -⟩ := Reference.row_eq op
  rw [hsep] at hsep'
  rw [hnamed] at hnamed'
  cases m with
  | text s => simp [Reference.expandVariable, Variable.spread, hnamed']
  | items texts => simp [Reference.expandVariable, Variable.spread, hnamed', hsep']
  | entries pairs =>
    unfold Variable.spread Variable.sign
    by_cases hexplode : v.modifier = .explode
    · simp [Reference.expandVariable, hnamed', hsep', hexplode]
    · simp [Reference.expandVariable, hnamed', hexplode]

theorem expandVariable_eq_marked (keys : Reference.Keys) (v : Variable) (m : Meaning) :
    Reference.expandVariable keys (Reference.row op) v m = marked (writtenAs op v m) := by
  have hencode : Reference.pctEncode (Reference.row op).allow = fun s => marked (op.encode s) :=
    funext (pctEncode_eq_marked hop)
  rw [expandVariable_eq_spread hop, writtenAs_eq_spread hop, marked_spread, hencode]

theorem tripled_writtenAs {v : Variable} {m : Meaning} :
    Tripled (writtenAs op v m) ↔ ∀ s ∈ v.written m, Tripled s := by
  rw [writtenAs_eq_spread hop, tripled_spread]
  simp only [tripled_encode_iff hop]

end

/-! ## Expressions -/

section
variable {e : Expression} (hop : e.operator.keepsReserved = true) (values : Fields)
include hop

theorem reference_eq_marked (keys : Reference.Keys) :
    Reference.expand keys e values = marked (e.expand values) := by
  obtain ⟨-, hsep⟩ := shape_of_keepsReserved hop
  obtain ⟨hfirst, hsep', -, -, -⟩ := Reference.row_eq e.operator
  have hlead : Tripled e.operator.lead := tripled_of_plain (by cases e.operator <;> decide)
  rw [Reference.expand_eq, Expression.expand_eq, hfirst, hsep', hsep]
  split
  · rfl
  · rw [marked_append hlead, marked_joined (by decide), List.map_map]
    congr 2
    exact List.map_congr_left fun p _ => expandVariable_eq_marked hop keys p.1 p.2

theorem tripled_expand :
    Tripled (e.expand values) ↔ ∀ p ∈ e.meanings values, ∀ s ∈ p.1.written p.2, Tripled s := by
  obtain ⟨-, hsep⟩ := shape_of_keepsReserved hop
  have hlead : Tripled e.operator.lead := tripled_of_plain (by cases e.operator <;> decide)
  rw [Expression.expand_eq, hsep]
  split
  · rename_i hnone
    simp [hnone, tripled_nil]
  · rw [tripled_append_iff hlead, tripled_joined (by decide), List.forall_mem_map]
    simp only [tripled_writtenAs hop]

end

/-- Where reserved characters are kept, an expansion differs from that of the reference in the
stray percent signs alone, which it leaves as they are. Its triplets are whole, and it is the
expansion of the reference, exactly if no text of the values has a stray percent sign. -/
theorem stray_percent_signs_are_kept (keys : Reference.Keys) (e : Expression) (values : Fields)
    (hop : e.operator.keepsReserved = true) (hproper : ∀ v ∈ e.vars, v.IsProper) :
    let text := e.template.expand values
    let wanted := Reference.expand keys e values
    Tripled wanted ∧ wanted = marked text ∧ (text = wanted ↔ Tripled text) ∧
      (Tripled text ↔ ∀ p ∈ e.meanings values, ∀ s ∈ p.1.written p.2, Tripled s) := by
  intro text wanted
  have htext : text = e.expand values := Expression.expand_template hproper values
  have hwanted : wanted = marked text := by
    rw [htext]
    exact reference_eq_marked hop values keys
  refine ⟨?_, hwanted, ?_, ?_⟩
  · rw [hwanted]
    exact tripled_marked text
  · rw [hwanted]
    exact eq_marked
  · rw [htext]
    exact tripled_expand hop values

/-- A limit that cuts a triplet, signs in members and in a key, and a fragment of whole triplets. -/
theorem a_path_with_stray_percent_signs :
    let e : Expression := ⟨.reserved, [⟨"path", .limit 4⟩, ⟨"tag", .none⟩, ⟨"m", .explode⟩]⟩
    let fragment : Expression := ⟨.fragment, [⟨"path", .none⟩]⟩
    let values : Fields :=
      [("m", .object [("%zz", .string "x y")]), ("path", .string "ab%2Fc"),
        ("tag", .array [.string "%41", .string "50%"])]
    let text := "ab%2,%41,50%,%zz=x%20y".toList
    let wanted := "ab%252,%41,50%25,%25zz=x%20y".toList
    e.template.text = "{+path:4,tag,m*}".toList ∧ (∀ v ∈ e.vars, v.IsProper) ∧
      e.template.expand values = text ∧ Reference.expand .asLiterals e values = wanted ∧
      Tripled wanted ∧ ¬Tripled text ∧
      fragment.template.expand values = Reference.expand .asLiterals fragment values ∧
      fragment.template.expand values = "#ab%2Fc".toList := by
  intro e fragment values text wanted
  have hproper : ∀ v ∈ e.vars, v.IsProper := by
    intro v hv
    constructor
    · apply isVarname_of_letters
      · revert v
        decide
      · revert v
        decide
    · revert v
      simp [e]
  have hproper' : ∀ v ∈ fragment.vars, v.IsProper := by
    intro v hv
    cases List.mem_singleton.mp hv
    exact ⟨isVarname_of_letters (by decide) (by decide), by simp⟩
  have htext : e.template.expand values = text := by
    rw [Expression.expand_template hproper]
    decide
  have hwanted : Reference.expand .asLiterals e values = wanted := by decide +kernel
  obtain ⟨htripled, -, hsame, -⟩ := stray_percent_signs_are_kept .asLiterals e values rfl hproper
  obtain ⟨-, -, hsame', hwhole'⟩ := stray_percent_signs_are_kept .asLiterals fragment values rfl hproper'
  rw [htext, hwanted] at hsame
  rw [hwanted] at htripled
  refine ⟨by decide, hproper, htext, hwanted, htripled, ?_, hsame'.mpr (hwhole'.mpr (by decide)), ?_⟩
  · exact fun hwhole => absurd (hsame.mpr hwhole) (by decide)
  · rw [Expression.expand_template hproper']
    decide

end HttpCalls
