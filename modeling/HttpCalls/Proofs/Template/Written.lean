-- Expressions as they are written down. The text of an expression whose variables have names
-- of letters, digits, underscores, triplets and single dots is read as that expression.
import HttpCalls.Proofs.Template.Parts
import HttpCalls.Template.Expand

namespace HttpCalls

open Text

/-! ## Names -/

def isHexDigit (c : Char) : Bool := (Hex.value? c).isSome

/-- One unit of a name: a letter, a digit, an underscore or a triplet. -/
inductive IsVarchar : List Char → Prop
  | char {c : Char} (h : c.isAlphanum = true ∨ c = '_') : IsVarchar [c]
  | triplet {a b : Char} (ha : isHexDigit a = true) (hb : isHexDigit b = true) : IsVarchar ['%', a, b]

/-- The name of a variable: units, with at most one dot between any two. -/
inductive IsVarname : List Char → Prop
  | last {unit : List Char} (h : IsVarchar unit) : IsVarname unit
  | next {unit rest : List Char} (h : IsVarchar unit) (hrest : IsVarname rest) :
      IsVarname (unit ++ rest)
  | dotted {unit rest : List Char} (h : IsVarchar unit) (hrest : IsVarname rest) :
      IsVarname (unit ++ '.' :: rest)

theorem isVarname_of_letters {name : List Char} (hne : name ≠ [])
    (h : (name.all fun c => c.isAlphanum || c = '_') = true) : IsVarname name := by
  induction name with
  | nil => exact absurd rfl hne
  | cons c rest ih =>
    rw [List.all_cons, Bool.and_eq_true, Bool.or_eq_true, decide_eq_true_eq] at h
    have hc : IsVarchar [c] := .char h.1
    cases rest with
    | nil => exact .last hc
    | cons d rest => exact .next hc (ih (List.cons_ne_nil _ _) h.2)

/-- The characters of a name. -/
def isNameChar (c : Char) : Bool := c.isAlphanum || c = '_' || c = '%' || c = '.'

theorem isAlphanum_iff (c : Char) :
    c.isAlphanum = true ↔ (65 ≤ c.toNat ∧ c.toNat ≤ 90) ∨ (97 ≤ c.toNat ∧ c.toNat ≤ 122) ∨
      (48 ≤ c.toNat ∧ c.toNat ≤ 57) := by
  have hrange : ∀ low high : UInt32, (decide (low ≤ c.val) && decide (c.val ≤ high)) = true ↔
      low.toNat ≤ c.toNat ∧ c.toNat ≤ high.toNat := by
    intro low high
    rw [Bool.and_eq_true, decide_eq_true_eq, decide_eq_true_eq, UInt32.le_iff_toNat_le,
      UInt32.le_iff_toNat_le]
    rfl
  have hupper : c.isUpper = true ↔ 65 ≤ c.toNat ∧ c.toNat ≤ 90 := decide_eq_true_iff
  have hlower : c.isLower = true ↔ 97 ≤ c.toNat ∧ c.toNat ≤ 122 := hrange 97 122
  have hdigit : c.isDigit = true ↔ 48 ≤ c.toNat ∧ c.toNat ≤ 57 := hrange 48 57
  have hsplit : c.isAlphanum = ((c.isUpper || c.isLower) || c.isDigit) := rfl
  rw [hsplit, Bool.or_eq_true, Bool.or_eq_true, hupper, hlower, hdigit, or_assoc]

theorem isAlphanum_of_isHexDigit {c : Char} (h : isHexDigit c = true) : c.isAlphanum = true := by
  simp only [isHexDigit, Hex.value?, Char.le_def, UInt32.le_iff_toNat_le] at h
  rw [isAlphanum_iff]
  have hbounds : '0'.val.toNat = 48 ∧ '9'.val.toNat = 57 ∧ 'A'.val.toNat = 65 ∧
      'F'.val.toNat = 70 ∧ 'a'.val.toNat = 97 ∧ 'f'.val.toNat = 102 := by decide
  have hc : c.toNat = c.val.toNat := rfl
  split at h
  · omega
  · split at h
    · omega
    · split at h
      · omega
      · cases h

theorem IsVarchar.chars {unit : List Char} (h : IsVarchar unit) : ∀ c ∈ unit, isNameChar c = true := by
  intro c hc
  cases h with
  | char h =>
    rw [List.mem_singleton] at hc
    subst hc
    rcases h with h | rfl
    · simp [isNameChar, h]
    · decide
  | triplet ha hb =>
    simp only [List.mem_cons, List.not_mem_nil, or_false] at hc
    rcases hc with rfl | rfl | rfl
    · decide
    · simp [isNameChar, isAlphanum_of_isHexDigit ha]
    · simp [isNameChar, isAlphanum_of_isHexDigit hb]

theorem IsVarname.chars {name : List Char} (h : IsVarname name) : ∀ c ∈ name, isNameChar c = true := by
  induction h with
  | last h => exact h.chars
  | next h _ ih =>
    intro c hc
    rcases List.mem_append.mp hc with hunit | hrest
    · exact h.chars c hunit
    · exact ih c hrest
  | dotted h _ ih =>
    intro c hc
    rcases List.mem_append.mp hc with hunit | hrest
    · exact h.chars c hunit
    · rcases List.mem_cons.mp hrest with rfl | hrest
      · decide
      · exact ih c hrest

theorem IsVarchar.head {unit : List Char} (h : IsVarchar unit) :
    ∃ c rest, unit = c :: rest ∧ isNameChar c = true ∧ c ≠ '.' := by
  cases h with
  | @char c h =>
    refine ⟨c, [], rfl, IsVarchar.chars (.char h) c (by simp), ?_⟩
    rintro rfl
    revert h
    decide
  | triplet ha hb => exact ⟨'%', _, rfl, by decide, by decide⟩

theorem IsVarname.head {name : List Char} (h : IsVarname name) :
    ∃ c rest, name = c :: rest ∧ isNameChar c = true ∧ c ≠ '.' := by
  cases h with
  | last h => exact h.head
  | next h _ =>
    obtain ⟨c, rest, rfl, hc⟩ := h.head
    exact ⟨c, _, rfl, hc⟩
  | dotted h _ =>
    obtain ⟨c, rest, rfl, hc⟩ := h.head
    exact ⟨c, _, rfl, hc⟩

/-! ## The text of an expression -/

/-- The character of an operator. -/
def Operator.sign : Operator → List Char
  | .simple => []
  | .reserved => ['+']
  | .fragment => ['#']
  | .label => ['.']
  | .path => ['/']
  | .parameter => [';']
  | .query => ['?']
  | .continuation => ['&']

def Modifier.text : Modifier → List Char
  | .none => []
  | .explode => ['*']
  | .limit count => ':' :: Decimal.digits count

def Variable.text (v : Variable) : List Char := v.name.toList ++ v.modifier.text

def Expression.text (e : Expression) : List Char :=
  e.operator.sign ++ joined [','] (e.vars.map Variable.text)

/-- The template of one expression. -/
def Expression.template (e : Expression) : Template := ⟨'{' :: e.text ++ ['}']⟩

/-- The variable has a name, and a limit that is a positive word of 64 bits if it has one. -/
structure Variable.IsProper (v : Variable) : Prop where
  name : IsVarname v.name.toList
  limit : ∀ count, v.modifier = .limit count → 0 < count ∧ count < 2 ^ 64

/-! ## Reading it -/

/-- The character has no meaning between the braces. -/
def isTame (c : Char) : Bool := !Blank.isUnicode c && c ≠ ',' && c ≠ '{' && c ≠ '}'

theorem isTame_of_isNameChar {c : Char} (h : isNameChar c = true) : isTame c = true := by
  simp only [isNameChar, Bool.or_eq_true, decide_eq_true_eq] at h
  rcases h with ((h | rfl) | rfl) | rfl
  · have hrange := (isAlphanum_iff c).mp h
    have hblank : Blank.isUnicode c = false := by
      simp only [Blank.isUnicode, Bool.or_eq_false_iff, Bool.and_eq_false_iff, decide_eq_false_iff_not]
      omega
    have hmarks : c ≠ ',' ∧ c ≠ '{' ∧ c ≠ '}' := by
      refine ⟨?_, ?_, ?_⟩ <;> rintro rfl <;> revert h <;> decide
    simp [isTame, hblank, hmarks]
  · decide
  · decide
  · decide

theorem isNameChar_of_mem_digits {n : Nat} {c : Char} (h : c ∈ Decimal.digits n) :
    isNameChar c = true := by
  have hdigit : c.isDigit = true := Nat.isDigit_of_mem_toDigits (by decide) (by decide) h
  simp [isNameChar, Char.isAlphanum, hdigit]

theorem Variable.IsProper.tame {v : Variable} (h : v.IsProper) : ∀ c ∈ v.text, isTame c = true := by
  intro c hc
  rcases List.mem_append.mp hc with hname | hmodifier
  · exact isTame_of_isNameChar (h.name.chars c hname)
  · cases hm : v.modifier with
    | none =>
      rw [hm] at hmodifier
      cases hmodifier
    | explode =>
      rw [hm, Modifier.text, List.mem_singleton] at hmodifier
      subst hmodifier
      decide
    | limit count =>
      rw [hm, Modifier.text, List.mem_cons] at hmodifier
      rcases hmodifier with rfl | hdigit
      · decide
      · exact isTame_of_isNameChar (isNameChar_of_mem_digits hdigit)

theorem count?_digits {n : Nat} (h : n < 2 ^ 64) : count? (Decimal.digits n) = some n := by
  have hne : Decimal.digits n ≠ [] := Nat.toDigits_ne_nil
  have hall : (Decimal.digits n).all Char.isDigit = true := by
    rw [List.all_eq_true]
    exact fun c hc => Nat.isDigit_of_mem_toDigits (by decide) (by decide) hc
  have hsign : dropStart? ['+'] (Decimal.digits n) = none := by
    rcases hds : Decimal.digits n with _ | ⟨c, rest⟩
    · exact absurd hds hne
    · rw [hds, List.all_cons, Bool.and_eq_true] at hall
      have hc : '+' ≠ c := by
        rintro rfl
        exact absurd hall.1 (by decide)
      simp [dropStart?, hc]
  have hvalue : (Decimal.digits n).foldl (fun n c => n * 10 + (c.toNat - '0'.toNat)) 0 = n := by
    have hcore := Nat.ofDigitChars_ten_toDigits (n := n)
    rw [Nat.ofDigitChars_eq_foldl] at hcore
    unfold Decimal.digits
    simpa [Nat.mul_comm] using hcore
  unfold count?
  simp only [hsign, Option.getD_none, List.isEmpty_eq_false_iff.mpr hne, hall, hvalue, Bool.not_true,
    Bool.or_self, Bool.false_eq_true, if_false]
  exact if_pos h

theorem IsVarname.notMem {name : List Char} (h : IsVarname name) : ':' ∉ name ∧ '*' ∉ name := by
  constructor
  · intro hmem
    exact absurd (h.chars _ hmem) (by decide)
  · intro hmem
    exact absurd (h.chars _ hmem) (by decide)

theorem getLast?_ne_star {text : List Char} (h : '*' ∉ text) : text.getLast? ≠ some '*' :=
  fun hlast => h (List.mem_of_getLast? hlast)

theorem Variable.ofText_text {v : Variable} (h : v.IsProper) : Variable.ofText v.text = v := by
  obtain ⟨name, modifier⟩ := v
  obtain ⟨hcolon, hstar⟩ := h.name.notMem
  cases modifier with
  | none =>
    have htext : Variable.text ⟨name, .none⟩ = name.toList := List.append_nil _
    unfold Variable.ofText
    rw [htext, if_neg (getLast?_ne_star hstar), cut?_eq_none.mpr hcolon]
    simp
  | explode =>
    have htext : Variable.text ⟨name, .explode⟩ = name.toList ++ ['*'] := rfl
    unfold Variable.ofText
    rw [htext, if_pos (by simp)]
    simp
  | limit count =>
    have hcount := (h.limit count rfl).2
    have htext : Variable.text ⟨name, .limit count⟩ = name.toList ++ ':' :: Decimal.digits count := rfl
    have hlast : '*' ∉ name.toList ++ ':' :: Decimal.digits count := by
      intro hmem
      rcases List.mem_append.mp hmem with hname | hrest
      · exact hstar hname
      · rcases List.mem_cons.mp hrest with heq | hdigit
        · cases heq
        · exact absurd (isNameChar_of_mem_digits hdigit) (by decide)
    unfold Variable.ofText
    rw [htext, if_neg (getLast?_ne_star hlast), cut?_append_sep _ hcolon]
    simp only [count?_digits hcount]
    simp

theorem trim_of_tame {text : List Char} (h : ∀ c ∈ text, isTame c = true) : Blank.trim text = text := by
  have hblank : ∀ c ∈ text, Blank.isUnicode c = false := by
    intro c hc
    have htame := h c hc
    simp only [isTame, Bool.and_eq_true, Bool.not_eq_true'] at htame
    exact htame.1.1.1
  have hkept : ∀ l : List Char, (∀ c ∈ l, Blank.isUnicode c = false) →
      l.dropWhile Blank.isUnicode = l := by
    intro l hl
    cases l with
    | nil => rfl
    | cons c rest => rw [List.dropWhile_cons_of_neg (by simp [hl c])]
  unfold Blank.trim Blank.strip
  rw [hkept text hblank, hkept text.reverse (by simpa using hblank), List.reverse_reverse]

theorem readVars_joined {vars : List Variable} (h : ∀ v ∈ vars, v.IsProper) :
    (((pieces ',' (joined [','] (vars.map Variable.text))).map Blank.trim).filter
      (!·.isEmpty)).map Variable.ofText = vars := by
  by_cases hne : vars = []
  · subst hne
    rfl
  have hcomma : ∀ text ∈ vars.map Variable.text, ',' ∉ text := by
    intro text htext hmem
    obtain ⟨v, hv, rfl⟩ := List.mem_map.mp htext
    exact absurd ((h v hv).tame _ hmem) (by decide)
  have htrim : (vars.map Variable.text).map Blank.trim = vars.map Variable.text := by
    rw [List.map_map]
    apply List.map_congr_left
    intro v hv
    exact trim_of_tame (h v hv).tame
  have hsome : (vars.map Variable.text).filter (!·.isEmpty) = vars.map Variable.text := by
    apply List.filter_eq_self.mpr
    intro text htext
    obtain ⟨v, hv, rfl⟩ := List.mem_map.mp htext
    obtain ⟨c, rest, hname, -⟩ := (h v hv).name.head
    simp [Variable.text, hname]
  have hread : (vars.map Variable.text).map Variable.ofText = vars := by
    rw [List.map_map]
    conv => rhs; rw [← List.map_id vars]
    apply List.map_congr_left
    intro v hv
    exact Variable.ofText_text (h v hv)
  rw [pieces_joined (by simpa using hne) hcomma, htrim, hsome, hread]

theorem ofChar?_of_isNameChar {c : Char} (h : isNameChar c = true) (hdot : c ≠ '.') :
    Operator.ofChar? c = none := by
  unfold Operator.ofChar?
  split
  all_goals first | rfl | exact absurd rfl hdot | exact absurd h (by decide)

theorem Expression.ofText_text {e : Expression} (h : ∀ v ∈ e.vars, v.IsProper) :
    Expression.ofText e.text = e := by
  obtain ⟨op, vars⟩ := e
  have hvars := readVars_joined h
  unfold Expression.ofText Expression.text
  cases op with
  | simple =>
    -- the head of the first name is no operator
    have hhead : ∀ c rest, joined [','] (vars.map Variable.text) = c :: rest →
        Operator.ofChar? c = none := by
      intro c rest htext
      cases vars with
      | nil => cases htext
      | cons v more =>
        obtain ⟨d, name, hname, hd, hdot⟩ := (h v List.mem_cons_self).name.head
        have hfirst : ∃ rest', joined [','] ((v :: more).map Variable.text) = d :: rest' := by
          rw [List.map_cons, Variable.text, hname]
          cases more with
          | nil => exact ⟨_, rfl⟩
          | cons next more => exact ⟨_, rfl⟩
        obtain ⟨rest', hrest'⟩ := hfirst
        rw [htext] at hrest'
        cases hrest'
        exact ofChar?_of_isNameChar hd hdot
    simp only [Operator.sign, List.nil_append]
    split
    · simp only [hvars]
    · rename_i c rest htext
      rw [hhead c rest htext]
      simp only [hvars]
  | _ =>
    simp only [Operator.sign, List.cons_append, List.nil_append, Operator.ofChar?]
    rw [hvars]

theorem Expression.tame {e : Expression} (h : ∀ v ∈ e.vars, v.IsProper) : '}' ∉ e.text := by
  intro hmem
  rcases List.mem_append.mp hmem with hsign | hvars
  · revert hsign
    cases e.operator <;> decide
  · have hjoined : ∀ c ∈ joined [','] (e.vars.map Variable.text), c ≠ '}' := by
      apply forall_mem_joined
      · simp
      · rintro text htext c hc rfl
        obtain ⟨v, hv, rfl⟩ := List.mem_map.mp htext
        exact absurd ((h v hv).tame _ hc) (by decide)
    exact hjoined _ hvars rfl

/-- The template of an expression has that expression as its one part. -/
theorem Expression.parts_template {e : Expression} (h : ∀ v ∈ e.vars, v.IsProper) :
    e.template.parts = [.expression e] := by
  have hopen : cut? '{' e.template.text = some ([], e.text ++ ['}']) := by
    simp [Expression.template, cut?]
  have hclose : cut? '}' (e.text ++ ['}']) = some (e.text, []) := cut?_append_sep [] (Expression.tame h)
  have hnothing : partsOf [] = [] := by
    rw [partsOf]
    rfl
  unfold Template.parts
  rw [partsOf_braced hopen hclose, Expression.ofText_text h, hnothing]
  rfl

theorem Expression.expand_template {e : Expression} (h : ∀ v ∈ e.vars, v.IsProper) (values : Fields) :
    e.template.expand values = e.expand values := by
  unfold Template.expand
  rw [Expression.parts_template h]
  simp [Part.expand]

end HttpCalls
