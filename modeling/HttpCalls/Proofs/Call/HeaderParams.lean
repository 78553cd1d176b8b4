-- The headers that the parameters of a call send. A header parameter before the first body sends
-- its text under its name, and one name may have several texts. A parameter whose name or text is
-- not legal sends nothing and stands in the way of no other.
import HttpCalls.Proofs.Call.RequestParts
import HttpCalls.Proofs.Text.SmallLetters
import HttpCalls.Proofs.Text.Spelling

namespace HttpCalls

/-! ## What a parameter sends -/

/-- The text of a scalar. -/
inductive ScalarText : Json → List Char → Prop
  | string (s : String) : ScalarText (.string s) s.toList
  | number (n : Number) : ScalarText (.number n) n.text
  | yes : ScalarText (.bool true) "true".toList
  | no : ScalarText (.bool false) "false".toList

/-- The texts of a list, all of whose members are scalars. -/
inductive ScalarTexts : List Json → List (List Char) → Prop
  | nil : ScalarTexts [] []
  | cons {v more text texts} : ScalarText v text → ScalarTexts more texts →
      ScalarTexts (v :: more) (text :: texts)

/-- The text of a value in a header. Objects, `null` and lists with another member have none. -/
inductive HeaderText : Json → List Char → Prop
  | scalar {v text} : ScalarText v text → HeaderText v text
  | list {items texts} : ScalarTexts items texts →
      HeaderText (.array items) (Text.joined [','] texts)

/-- The name that a header parameter asks for: the one that is given, else one made of its own. -/
inductive Param.AsksFor (p : Param) : List Char → Prop
  | given {name : String} : p.role = .header (some name) → p.AsksFor name.toList
  | made : p.role = .header none → p.AsksFor (Kebab.ofText p.name.toList)

/-- The names that a header may be given, in capitals or not. -/
structure IsFieldName (name : List Char) : Prop where
  nonempty : name ≠ []
  short : name.length ≤ 65535
  token : ∀ c ∈ name, isTokenChar c = true

/-- The octets of header values: all but the control characters, the tab excepted. -/
def IsFieldOctet (b : UInt8) : Prop := (0x20 ≤ b.toNat ∧ b.toNat ≠ 0x7F) ∨ b.toNat = 0x09

/-- A parameter sends a text under a name, which is known in lower case. -/
structure Param.Sends (p : Param) (name : HeaderName) (text : List Char) : Prop where
  named : ∃ asked, p.AsksFor asked ∧ IsFieldName asked ∧ asked.map Char.toLower = name.text
  written : HeaderText p.value text
  legal : ∀ b ∈ Utf8.encode text, IsFieldOctet b

/-- The texts that parameters send under a name, in their order, up to the first body. -/
inductive SentUnder (name : HeaderName) : List Param → List (List Char) → Prop
  | none : SentUnder name [] []
  | body {p kind rest} : p.role = .body kind → SentUnder name (p :: rest) []
  | sent {p rest text texts} : p.Sends name text → SentUnder name rest texts →
      SentUnder name (p :: rest) (text :: texts)
  | passed {p rest texts} : (∀ kind, p.role ≠ .body kind) → (∀ text, ¬p.Sends name text) →
      SentUnder name rest texts → SentUnder name (p :: rest) texts

/-! ## Texts -/

theorem scalarText?_eq_some {v : Json} {text : List Char} :
    v.scalarText? = some text ↔ ScalarText v text := by
  constructor
  · intro h
    cases v with
    | string s => cases h; exact .string s
    | number n => cases h; exact .number n
    | bool b => cases b <;> cases h <;> constructor
    | _ => cases h
  · rintro (_ | _ | _ | _) <;> rfl

theorem scalarTexts?_eq_some {items : List Json} {texts : List (List Char)} :
    scalarTexts? items = some texts ↔ ScalarTexts items texts := by
  constructor
  · intro h
    induction items generalizing texts with
    | nil => cases h; exact .nil
    | cons v more ih =>
      obtain ⟨text, htext, h⟩ := Option.bind_eq_some_iff.mp h
      obtain ⟨rest, hrest, rfl⟩ := Option.map_eq_some_iff.mp h
      exact .cons (scalarText?_eq_some.mp htext) (ih hrest)
  · intro h
    induction h with
    | nil => rfl
    | cons hfirst _ ih => rw [scalarTexts?, scalarText?_eq_some.mpr hfirst, ih]; rfl

theorem headerText?_eq_some {v : Json} {text : List Char} :
    headerText? v = some text ↔ HeaderText v text := by
  constructor
  · intro h
    unfold headerText? at h
    split at h
    · obtain ⟨texts, htexts, rfl⟩ := Option.map_eq_some_iff.mp h
      exact .list (scalarTexts?_eq_some.mp htexts)
    · exact .scalar (scalarText?_eq_some.mp h)
  · rintro (hscalar | hlist)
    · rw [← scalarText?_eq_some] at hscalar
      unfold headerText?
      split
      · cases hscalar
      · exact hscalar
    · rw [headerText?, scalarTexts?_eq_some.mpr hlist]
      rfl

/-! ## Legal names and legal texts -/

theorem isTokenChar_toLower (c : Char) : isTokenChar c.toLower = isTokenChar c := by
  rcases toLower_cases c with ⟨hupper, hsmall⟩ | ⟨-, hsame⟩
  · unfold isTokenChar
    rw [(small_letter hsmall).2, isAlphanum_cases, hupper, Bool.true_or, Bool.true_or, Bool.true_or]
    rfl
  · rw [hsame]

theorem isHeaderName_lower (asked : List Char) :
    isHeaderName (asked.map Char.toLower) = true ↔ IsFieldName asked := by
  have hsmall : (asked.map Char.toLower).all (!·.isUpper) = true := by
    rw [List.all_map, List.all_eq_true]
    intro c _
    exact congrArg not (isUpper_toLower c)
  have htoken : (asked.map Char.toLower).all isTokenChar = asked.all isTokenChar := by
    rw [List.all_map]
    congr 1
    funext c
    exact isTokenChar_toLower c
  unfold isHeaderName isToken
  rw [hsmall, htoken]
  simp only [Bool.and_true, Bool.and_eq_true, Bool.not_eq_true', List.isEmpty_eq_false_iff, ne_eq,
    List.map_eq_nil_iff, List.all_eq_true, List.length_map, decide_eq_true_eq, Nat.lt_succ_iff]
  exact ⟨fun ⟨⟨hnonempty, htoken⟩, hshort⟩ => ⟨hnonempty, hshort, htoken⟩,
    fun ⟨hnonempty, hshort, htoken⟩ => ⟨⟨hnonempty, htoken⟩, hshort⟩⟩

theorem HeaderName.ofText?_eq_some {asked : List Char} {name : HeaderName} :
    HeaderName.ofText? asked = some name ↔
      IsFieldName asked ∧ asked.map Char.toLower = name.text := by
  unfold HeaderName.ofText?
  dsimp only
  split
  · rename_i hlegal
    rw [Option.some.injEq, HeaderName.mk.injEq]
    exact ⟨fun h => ⟨(isHeaderName_lower asked).mp hlegal, h⟩, fun h => h.2⟩
  · rename_i hillegal
    exact ⟨nofun, fun h => absurd ((isHeaderName_lower asked).mpr h.1) hillegal⟩

theorem isHeaderChar_iff (c : Char) :
    isHeaderChar c = true ↔ ∀ b ∈ String.utf8EncodeChar c, IsFieldOctet b := by
  have htab : c = '\t' ↔ c.toNat = 9 := ⟨fun h => h ▸ rfl, fun h => Char.toNat_inj.mp h⟩
  unfold isHeaderChar IsFieldOctet
  simp only [Bool.or_eq_true, Bool.and_eq_true, decide_eq_true_eq, htab]
  by_cases h : c.toNat < 0x80
  · have hoctet : (UInt8.ofNat c.toNat).toNat = c.toNat := by
      rw [UInt8.toNat_ofNat']
      omega
    rw [Utf8.encodeChar_ascii h]
    simp only [List.mem_singleton, forall_eq, hoctet, ne_eq]
  · have hwide := Utf8.encodeChar_wide (Nat.le_of_not_lt h)
    constructor
    · intro _ b hb
      have hb : 128 ≤ b.toNat := UInt8.le_iff_toNat_le.mp (hwide b hb)
      omega
    · intro _
      omega

theorem IsFieldOctet.ne_lineEnd {b : UInt8} (h : IsFieldOctet b) : b ≠ 0x0D ∧ b ≠ 0x0A := by
  have hcontrol : ∀ b : UInt8, b.toNat < 0x20 → b.toNat ≠ 0x09 → ¬IsFieldOctet b := by
    intro b hlow htab hlegal
    unfold IsFieldOctet at hlegal
    omega
  constructor
  · rintro rfl
    exact hcontrol 0x0D (by decide) (by decide) h
  · rintro rfl
    exact hcontrol 0x0A (by decide) (by decide) h

theorem all_isHeaderChar_iff (text : List Char) :
    text.all isHeaderChar = true ↔ ∀ b ∈ Utf8.encode text, IsFieldOctet b := by
  rw [List.all_eq_true]
  unfold Utf8.encode
  simp only [List.mem_flatMap, isHeaderChar_iff]
  exact ⟨fun h b ⟨c, hc, hb⟩ => h c hc b hb, fun h c hc b hb => h b ⟨c, hc, hb⟩⟩

theorem HeaderValue.ofText?_eq_some {text : List Char} {value : HeaderValue} :
    HeaderValue.ofText? text = some value ↔
      (∀ b ∈ Utf8.encode text, IsFieldOctet b) ∧ value.text = text := by
  unfold HeaderValue.ofText?
  split
  · rename_i hlegal
    rw [Option.some.injEq, ← all_isHeaderChar_iff]
    exact ⟨fun h => h ▸ ⟨hlegal, rfl⟩, fun ⟨_, h⟩ => by cases value; cases h; rfl⟩
  · rename_i hillegal
    exact ⟨nofun, fun h => absurd ((all_isHeaderChar_iff text).mpr h.1) hillegal⟩

/-! ## One parameter -/

section
variable {p : Param} {name : HeaderName} {value : HeaderValue}

theorem asksFor_iff {explicit : Option String} (h : p.role = .header explicit) {asked : List Char} :
    p.AsksFor asked ↔ p.headerName explicit = asked := by
  constructor
  · rintro (hgiven | hmade)
    · cases hgiven.symm.trans h
      rfl
    · cases hmade.symm.trans h
      rfl
  · rintro rfl
    cases explicit with
    | some name => exact .given h
    | none => exact .made h

/-- Only header parameters send anything. -/
theorem Param.Sends.header {text : List Char} (h : p.Sends name text) :
    ∃ explicit, p.role = .header explicit := by
  obtain ⟨⟨asked, hasked, -⟩, -⟩ := h
  cases hasked with
  | given hrole => exact ⟨_, hrole⟩
  | made hrole => exact ⟨_, hrole⟩

theorem header?_eq_some : p.header? = some (name, value) ↔ p.Sends name value.text := by
  unfold Param.header?
  split
  · rename_i explicit hrole
    simp only [Option.bind_eq_some_iff, Option.map_eq_some_iff, Prod.mk.injEq, headerText?_eq_some,
      HeaderName.ofText?_eq_some, HeaderValue.ofText?_eq_some]
    constructor
    · rintro ⟨text, htext, _, hname, _, ⟨hlegal, rfl⟩, rfl, rfl⟩
      exact ⟨⟨_, (asksFor_iff hrole).mpr rfl, hname⟩, htext, hlegal⟩
    · rintro ⟨⟨asked, hasked, hname⟩, htext, hlegal⟩
      cases (asksFor_iff hrole).mp hasked
      exact ⟨_, htext, name, hname, value, ⟨hlegal, rfl⟩, rfl, rfl⟩
  · rename_i hother
    refine ⟨nofun, fun h => ?_⟩
    obtain ⟨explicit, hrole⟩ := h.header
    exact absurd hrole (hother explicit)

/-- What is sent is a header. -/
theorem Param.Sends.header? {text : List Char} (h : p.Sends name text) :
    ∃ value : HeaderValue, value.text = text ∧ p.header? = some (name, value) := by
  have hlegal := (all_isHeaderChar_iff text).mpr h.legal
  exact ⟨⟨text, hlegal⟩, rfl, header?_eq_some.mpr h⟩

end

/-! ## All parameters -/

section
variable {p : Param} {kind : BodyKind}

theorem headersOf_body (h : p.role = .body kind) (rest : List Param) :
    headersOf (p :: rest) = [] := by
  have hbody : p.isBody = true := by
    unfold Param.isBody
    rw [h]
  unfold headersOf beforeBody
  rw [List.takeWhile_cons_of_neg (by simp [hbody])]
  rfl

theorem headersOf_cons (h : ∀ kind, p.role ≠ .body kind) (rest : List Param) :
    headersOf (p :: rest) = p.header?.toList ++ headersOf rest := by
  unfold headersOf beforeBody
  rw [List.takeWhile_cons_of_pos (by simp [Param.isBody_eq_false h]), List.filterMap_cons]
  cases p.header? <;> rfl

theorem headersOf_congr_behind {late late' : List Param} (h : headersOf late = headersOf late')
    (early : List Param) : headersOf (early ++ late) = headersOf (early ++ late') := by
  induction early with
  | nil => exact h
  | cons p rest ih =>
    rw [List.cons_append, List.cons_append]
    by_cases hbody : ∃ kind, p.role = .body kind
    · obtain ⟨kind, hkind⟩ := hbody
      rw [headersOf_body hkind, headersOf_body hkind]
    · have hnone : ∀ kind, p.role ≠ .body kind := fun kind hkind => hbody ⟨kind, hkind⟩
      rw [headersOf_cons hnone, headersOf_cons hnone, ih]

theorem build_headers (template : Template) (method : Method) (params : List Param) :
    (Request.build template method params).headers = headersOf params := by
  unfold Request.build
  dsimp only
  split <;> rfl

end

/-- The texts under a name. -/
def Headers.texts (headers : Headers) (name : HeaderName) : List (List Char) :=
  (Headers.values headers name).map (·.text)

section
variable {name : HeaderName}

theorem Headers.texts_header (header : HeaderName × HeaderValue) (more : Headers) :
    texts (header :: more) name =
      if header.1 = name then header.2.text :: texts more name else texts more name := by
  unfold texts values
  rw [List.filterMap_cons]
  split <;> rename_i h <;> split at h <;> simp_all

theorem sentUnder_texts (params : List Param) :
    SentUnder name params (Headers.texts (headersOf params) name) := by
  induction params with
  | nil => exact .none
  | cons p rest ih =>
    by_cases hbody : ∃ kind, p.role = .body kind
    · obtain ⟨kind, hkind⟩ := hbody
      rw [headersOf_body hkind]
      exact .body hkind
    · have hnone : ∀ kind, p.role ≠ .body kind := fun kind hkind => hbody ⟨kind, hkind⟩
      rw [headersOf_cons hnone]
      cases hheader : p.header? with
      | none =>
        refine .passed hnone (fun text hsends => ?_) ih
        obtain ⟨value, -, hvalue⟩ := hsends.header?
        cases hheader.symm.trans hvalue
      | some header =>
        rw [Option.toList_some, List.singleton_append, Headers.texts_header]
        split
        · rename_i hname
          subst hname
          exact .sent (header?_eq_some.mp hheader) ih
        · rename_i hname
          refine .passed hnone (fun text hsends => ?_) ih
          obtain ⟨value, -, hvalue⟩ := hsends.header?
          cases hheader.symm.trans hvalue
          exact hname rfl

theorem Param.Sends.unique {p : Param} {text text' : List Char} (h : p.Sends name text)
    (h' : p.Sends name text') : text = text' := by
  have := headerText?_eq_some.mpr h.written
  rw [headerText?_eq_some.mpr h'.written] at this
  exact (Option.some.inj this).symm

theorem Param.Sends.noBody {p : Param} {text : List Char} (h : p.Sends name text)
    (kind : BodyKind) : p.role ≠ .body kind := by
  obtain ⟨explicit, hrole⟩ := h.header
  rw [hrole]
  exact nofun

/-- Parameters send one list of texts under a name. -/
theorem SentUnder.unique {params : List Param} {texts texts' : List (List Char)}
    (h : SentUnder name params texts) (h' : SentUnder name params texts') : texts = texts' := by
  induction h generalizing texts' with
  | none => cases h'; rfl
  | body hkind =>
    cases h' with
    | body => rfl
    | sent hsends _ => exact absurd hkind (hsends.noBody _)
    | passed hnone _ _ => exact absurd hkind (hnone _)
  | sent hsends _ ih =>
    cases h' with
    | body hkind => exact absurd hkind (hsends.noBody _)
    | sent hsends' hrest => rw [hsends.unique hsends', ih hrest]
    | passed _ hnot _ => exact absurd hsends (hnot _)
  | passed hnone hnot _ ih =>
    cases h' with
    | body hkind => exact absurd hkind (hnone _)
    | sent hsends _ => exact absurd hsends (hnot _)
    | passed _ _ hrest => exact ih hrest

end

/-! ## The law -/

/-- The headers of a request are what the header parameters before the first body send: under each
name their texts in order. What stands behind the body, and what is not legal, changes nothing, and
no octet of a value can end a header or break a message apart. -/
theorem headers_hold_what_parameters_send (template : Template) (method : Method) :
    let built (params : List Param) := (Request.build template method params).headers
    (∀ params name texts, (built params).texts name = texts ↔ SentUnder name params texts) ∧
    (∀ params name value, (name, value) ∈ built params →
      ∀ b ∈ Utf8.encode value.text, IsFieldOctet b ∧ b ≠ 0x0D ∧ b ≠ 0x0A) ∧
    (∀ early p kind late, p.role = .body kind → built (early ++ p :: late) = built early) ∧
    (∀ early p late, (∀ kind, p.role ≠ .body kind) → (∀ name text, ¬p.Sends name text) →
      built (early ++ p :: late) = built (early ++ late)) := by
  intro built
  have hbuilt (params : List Param) : built params = headersOf params :=
    build_headers template method params
  refine ⟨fun params name texts => ?_, fun params name value _ b hb => ?_, ?_, ?_⟩
  · rw [hbuilt]
    exact ⟨fun h => h ▸ sentUnder_texts params, (sentUnder_texts params).unique⟩
  · have hlegal := (all_isHeaderChar_iff value.text).mp value.valid b hb
    exact ⟨hlegal, hlegal.ne_lineEnd.1, hlegal.ne_lineEnd.2⟩
  · intro early p kind late hkind
    have hbehind : headersOf (p :: late) = headersOf [] := headersOf_body hkind late
    rw [hbuilt, hbuilt, headersOf_congr_behind hbehind, List.append_nil]
  · intro early p late hnone hnot
    have hheader : p.header? = none := by
      cases hheader : p.header? with
      | none => rfl
      | some header => exact absurd (header?_eq_some.mp hheader) (hnot _ _)
    rw [hbuilt, hbuilt]
    apply headersOf_congr_behind
    rw [headersOf_cons hnone, hheader]
    rfl

/-- A list is sent as one text. A text that would begin a header of its own is not sent, and a
header behind the body is not sent either. -/
theorem a_text_with_a_line_end_is_not_sent :
    let trace : Param := ⟨"XTrace", .header none, .array [.string "a", .bool true]⟩
    let note : Param := ⟨"note", .header none, .string "hi\r\ncookie: x"⟩
    let user : Param := ⟨"user", .body .structured, .null⟩
    let late : Param := ⟨"late", .header (some "X-Trace"), .string "b"⟩
    let built (params : List Param) := (Request.build ⟨"/users".toList⟩ .get params).headers
    (∀ name text, ¬note.Sends name text) ∧
      built [trace, note, user, late] = built [trace] ∧
      (built [trace]).texts ⟨"x-trace".toList, by decide⟩ = ["a,true".toList] := by
  intro trace note user late built
  obtain ⟨htexts, -, hbody, hnothing⟩ := headers_hold_what_parameters_send ⟨"/users".toList⟩ .get
  have hnote : ∀ name text, ¬note.Sends name text := by
    rintro name text ⟨-, hwritten, hlegal⟩
    cases hwritten with
    | scalar hscalar =>
      cases hscalar
      exact (hlegal 0x0D (by decide)).ne_lineEnd.1 rfl
  refine ⟨hnote, ?_, ?_⟩
  · exact (hnothing [trace] note [user, late] (by simp [note]) hnote).trans
      (hbody [trace] user .structured [late] rfl)
  · have hmade : Kebab.ofText trace.name.toList = "x-trace".toList := by decide +kernel
    have hasked : trace.AsksFor "x-trace".toList := hmade ▸ .made rfl
    have hname : IsFieldName "x-trace".toList :=
      ⟨by decide, by decide, List.all_eq_true.mp (by decide)⟩
    refine (htexts _ _ _).mpr (.sent ⟨⟨_, hasked, hname, by decide⟩, ?_, ?_⟩ .none)
    · exact .list (.cons (.string "a") (.cons .yes .nil))
    · exact (all_isHeaderChar_iff _).mp (by decide)

end HttpCalls
