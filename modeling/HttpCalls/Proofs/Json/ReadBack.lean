-- Values of whole numbers are read back from any layout of their text. The members of a composite
-- are read one by one, each up to the comma or the bracket behind it.
import HttpCalls.Proofs.Json.FieldMaps
import HttpCalls.Proofs.Json.Layouts
import HttpCalls.Proofs.Json.ReadScalars
import HttpCalls.Proofs.Results

namespace HttpCalls.Json

open Reader

/-! ## Reading members -/

/-- The reader gives the value of the text, whatever follows it. -/
structure IsReadAs (depth : Nat) (text : Bytes) (v : Json) : Prop where
  starts : ∃ b s, text = b :: s ∧ Blank.isAscii b = false ∧ b ≠ 0x5D
  read : ∀ rest, endsNumber rest = true → value depth (text ++ rest) = .ok (v, rest)

theorem value_eq (depth : Nat) : ∃ nested, value depth = valueWith nested := by
  cases depth with
  | zero => exact ⟨none, rfl⟩
  | succ depth => exact ⟨some (value depth), rfl⟩

theorem value_blank {gap : Bytes} (h : ∀ b ∈ gap, Blank.isJson b = true) (depth : Nat) (s : Bytes) :
    value depth (gap ++ s) = value depth s := by
  obtain ⟨nested, hvalue⟩ := value_eq depth
  rw [hvalue, valueWith, skipBlank_append h]
  rfl

section
variable {depth bound : Nat} {gap text rest after : Bytes} {v : Json}

theorem IsReadAs.behind (h : IsReadAs depth text v) (hgap : ∀ b ∈ gap, Blank.isJson b = true)
    (hrest : endsNumber rest = true) :
    ∃ b s, b ≠ 0x5D ∧ skipBlank (gap ++ (text ++ rest)) = b :: s ∧ value depth (b :: s) = .ok (v, rest) := by
  obtain ⟨b, s, rfl, hblank, hb⟩ := h.starts
  refine ⟨b, s ++ rest, hb, ?_, h.read rest hrest⟩
  rw [skipBlank_append hgap]
  exact skipBlank_cons (isJson_of_isAscii hblank) _

theorem items_first (hgap : ∀ b ∈ gap, Blank.isJson b = true) (h : IsReadAs depth text v)
    (hrest : endsNumber rest = true) {more : List Json}
    (hmore : items (value depth) false rest bound = .ok (more, after)) :
    items (value depth) true (gap ++ (text ++ rest)) (bound + 1) = .ok (v :: more, after) := by
  obtain ⟨b, s, hb, hskip, hread⟩ := h.behind hgap hrest
  unfold items
  simp only [hskip, hb, hread, hmore, if_false, if_true]

theorem items_next (hgap : ∀ b ∈ gap, Blank.isJson b = true) (h : IsReadAs depth text v)
    (hrest : endsNumber rest = true) {more : List Json}
    (hmore : items (value depth) false rest bound = .ok (more, after)) :
    items (value depth) false (0x2C :: (gap ++ (text ++ rest))) (bound + 1) = .ok (v :: more, after) := by
  obtain ⟨b, s, hb, hskip, hread⟩ := h.behind hgap hrest
  have hcomma : skipBlank (0x2C :: (gap ++ (text ++ rest))) = 0x2C :: (gap ++ (text ++ rest)) :=
    skipBlank_cons (by decide) _
  have hne : (0x2C : UInt8) ≠ 0x5D := by decide
  unfold items
  simp only [hcomma, hne, hskip, hb, hread, hmore, Bool.false_eq_true, if_false, if_true]

theorem items_end (hgap : ∀ b ∈ gap, Blank.isJson b = true) (first : Bool) :
    items (value depth) first (gap ++ 0x5D :: rest) (bound + 1) = .ok ([], rest) := by
  have hskip : skipBlank (gap ++ 0x5D :: rest) = 0x5D :: rest := by
    rw [skipBlank_append hgap]
    exact skipBlank_cons (by decide) _
  unfold items
  simp only [hskip, if_true]

theorem endsNumber_further (l : Layout) {close : UInt8} (hclose : endsNumber [close] = true)
    (level : Nat) (texts : List Bytes) (rest : Bytes) :
    endsNumber (l.further close level texts ++ rest) = true := by
  cases texts with
  | cons text more => rfl
  | nil =>
    rw [Layout.further, List.append_assoc]
    cases hgap : l.gap level with
    | nil => exact hclose
    | cons b more =>
      have hblank := l.gap_blank level b (by simp [hgap])
      simp only [Blank.isJson, Bool.or_eq_true, decide_eq_true_eq] at hblank
      rcases hblank with ((rfl | rfl) | rfl) | rfl <;> rfl

theorem length_further (l : Layout) (close : UInt8) (level : Nat) (texts : List Bytes) :
    texts.length < (l.further close level texts).length := by
  induction texts with
  | nil => simp [Layout.further]
  | cons text more ih =>
    simp only [Layout.further, List.length_cons, List.length_append]
    omega

theorem items_further (l : Layout) (level : Nat) (rest : Bytes) {f : Json → Bytes} {xs : List Json}
    (h : ∀ x ∈ xs, IsReadAs depth (f x) x) (hbound : xs.length < bound) :
    items (value depth) false (l.further 0x5D level (xs.map f) ++ rest) bound = .ok (xs, rest) := by
  induction xs generalizing bound with
  | nil =>
    obtain ⟨bound, rfl⟩ := Nat.exists_eq_add_one.mpr hbound
    rw [List.map_nil, Layout.further, List.append_assoc]
    exact items_end (l.gap_blank level) false
  | cons x xs ih =>
    obtain ⟨bound, rfl⟩ := Nat.exists_eq_add_one.mpr (Nat.lt_of_le_of_lt (Nat.zero_le _) hbound)
    have hmore := ih (fun y hy => h y (List.mem_cons_of_mem _ hy)) (Nat.lt_of_succ_lt_succ hbound)
    rw [List.map_cons, Layout.further, List.append_assoc, List.append_assoc, List.cons_append]
    exact items_next (l.gap_blank _) (h x List.mem_cons_self) (endsNumber_further l (by decide) _ _ _) hmore

/-- An array is read when its items are. -/
theorem isReadAs_array (l : Layout) (level : Nat) {f : Json → Bytes} {xs : List Json}
    (h : ∀ x ∈ xs, IsReadAs depth (f x) x) :
    IsReadAs (depth + 1) (l.bracketed 0x5B 0x5D level (xs.map f)) (.array xs) := by
  have hopen : ∀ s, value (depth + 1) (0x5B :: s) =
      (items (value depth) true s (s.length + 1)).map fun r => (.array r.1, r.2) :=
    fun s => rfl
  constructor
  · cases xs with
    | nil => exact ⟨0x5B, _, rfl, by decide, by decide⟩
    | cons x xs => exact ⟨0x5B, _, rfl, by decide, by decide⟩
  · intro rest _
    cases xs with
    | nil =>
      have hend : items (value depth) true ([] ++ 0x5D :: rest) ((0x5D :: rest).length + 1) = .ok ([], rest) :=
        items_end (by simp) true
      rw [List.map_nil, Layout.bracketed, List.cons_append, hopen]
      exact congrArg (Except.map _) hend
    | cons x xs =>
      have hlength : xs.length <
          (l.gap (level + 1) ++ (f x ++ (l.further 0x5D level (xs.map f) ++ rest))).length := by
        have hmore := length_further l 0x5D level (xs.map f)
        simp only [List.length_append, List.length_map] at hmore ⊢
        omega
      have hmore := items_further l level rest (fun y hy => h y (List.mem_cons_of_mem _ hy)) hlength
      have hall := items_first (l.gap_blank (level + 1)) (h x List.mem_cons_self)
        (endsNumber_further l (by decide) _ _ _) hmore
      rw [List.map_cons, Layout.bracketed, List.append_assoc, List.append_assoc, List.cons_append, hopen,
        hall]
      rfl

end

/-! ## Reading entries -/

/-- The reader gives the entry of the text behind its first quote, whatever follows it. -/
def IsEntryAs (depth : Nat) (text : Bytes) (f : String × Json) : Prop :=
  ∃ body, text = 0x22 :: body ∧
    ∀ rest, endsNumber rest = true → entry (value depth) (body ++ rest) = .ok (f, rest)

theorem encode_writeString (text : List Char) (rest : Bytes) :
    Utf8.encode (writeString text) ++ rest =
      0x22 :: (Utf8.encode (text.flatMap writeChar) ++ 0x22 :: rest) := by
  rw [writeString, Utf8.encode_append, List.append_assoc]
  rfl

theorem isEntryAs_assigned (l : Layout) {depth : Nat} {text : Bytes} {v : Json} (k : String)
    (h : IsReadAs depth text v) : IsEntryAs depth (l.assigned k text) (k, v) := by
  refine ⟨_, encode_writeString k.toList _, ?_⟩
  intro rest hrest
  have hcolon : ∀ s, skipBlank (0x3A :: s) = 0x3A :: s := skipBlank_cons (by decide)
  have hvalue : value depth (l.behindColon ++ text ++ rest) = .ok (v, rest) := by
    rw [List.append_assoc, value_blank l.behindColon_blank]
    exact h.read rest hrest
  unfold entry
  rw [List.append_assoc, List.cons_append, stringText_written]
  simp only [List.cons_append, hcolon, hvalue, if_true]

section
variable {depth bound : Nat} {gap text rest after : Bytes} {f : String × Json}

theorem entries_first (hgap : ∀ b ∈ gap, Blank.isJson b = true) (h : IsEntryAs depth text f)
    (hrest : endsNumber rest = true) {more : List (String × Json)}
    (hmore : entries (value depth) false rest bound = .ok (more, after)) :
    entries (value depth) true (gap ++ (text ++ rest)) (bound + 1) = .ok (f :: more, after) := by
  obtain ⟨body, rfl, hread⟩ := h
  have hskip : skipBlank (gap ++ (0x22 :: body ++ rest)) = 0x22 :: (body ++ rest) := by
    rw [skipBlank_append hgap]
    exact skipBlank_cons (by decide) _
  have hne : (0x22 : UInt8) ≠ 0x7D := by decide
  unfold entries
  simp only [hskip, hne, hread rest hrest, hmore, if_false, if_true]

theorem entries_next (hgap : ∀ b ∈ gap, Blank.isJson b = true) (h : IsEntryAs depth text f)
    (hrest : endsNumber rest = true) {more : List (String × Json)}
    (hmore : entries (value depth) false rest bound = .ok (more, after)) :
    entries (value depth) false (0x2C :: (gap ++ (text ++ rest))) (bound + 1) = .ok (f :: more, after) := by
  obtain ⟨body, rfl, hread⟩ := h
  have hskip : skipBlank (gap ++ (0x22 :: body ++ rest)) = 0x22 :: (body ++ rest) := by
    rw [skipBlank_append hgap]
    exact skipBlank_cons (by decide) _
  have hcomma : ∀ s, skipBlank (0x2C :: s) = 0x2C :: s := skipBlank_cons (by decide)
  have hne : (0x2C : UInt8) ≠ 0x7D := by decide
  unfold entries
  simp only [hcomma, hne, hskip, hread rest hrest, hmore, Bool.false_eq_true, if_false, if_true]

theorem entries_end (hgap : ∀ b ∈ gap, Blank.isJson b = true) (first : Bool) :
    entries (value depth) first (gap ++ 0x7D :: rest) (bound + 1) = .ok ([], rest) := by
  have hskip : skipBlank (gap ++ 0x7D :: rest) = 0x7D :: rest := by
    rw [skipBlank_append hgap]
    exact skipBlank_cons (by decide) _
  unfold entries
  simp only [hskip, if_true]

theorem entries_further (l : Layout) (level : Nat) (rest : Bytes) {g : String × Json → Bytes} {fields : List (String × Json)}
    (h : ∀ f ∈ fields, IsEntryAs depth (g f) f) (hbound : fields.length < bound) :
    entries (value depth) false (l.further 0x7D level (fields.map g) ++ rest) bound = .ok (fields, rest) := by
  induction fields generalizing bound with
  | nil =>
    obtain ⟨bound, rfl⟩ := Nat.exists_eq_add_one.mpr hbound
    rw [List.map_nil, Layout.further, List.append_assoc]
    exact entries_end (l.gap_blank level) false
  | cons f fields ih =>
    obtain ⟨bound, rfl⟩ := Nat.exists_eq_add_one.mpr (Nat.lt_of_le_of_lt (Nat.zero_le _) hbound)
    have hmore := ih (fun e he => h e (List.mem_cons_of_mem _ he)) (Nat.lt_of_succ_lt_succ hbound)
    rw [List.map_cons, Layout.further, List.append_assoc, List.append_assoc, List.cons_append]
    exact entries_next (l.gap_blank _) (h f List.mem_cons_self) (endsNumber_further l (by decide) _ _ _) hmore

/-- An object is read when its entries are, and no name is repeated. -/
theorem isReadAs_object (l : Layout) (level : Nat) {g : String × Json → Bytes} {fields : List (String × Json)}
    (hnames : (Fields.names fields).Nodup) (h : ∀ f ∈ fields, IsEntryAs depth (g f) f) :
    IsReadAs (depth + 1) (l.bracketed 0x7B 0x7D level (fields.map g)) (.object fields) := by
  have hopen : ∀ s, value (depth + 1) (0x7B :: s) =
      (entries (value depth) true s (s.length + 1)).map fun r => (.object (Fields.ofList r.1), r.2) :=
    fun s => rfl
  constructor
  · cases fields with
    | nil => exact ⟨0x7B, _, rfl, by decide, by decide⟩
    | cons f fields => exact ⟨0x7B, _, rfl, by decide, by decide⟩
  · intro rest _
    have hfields : Fields.ofList fields = fields := Fields.ofList_of_nodup hnames
    cases fields with
    | nil =>
      have hend : entries (value depth) true ([] ++ 0x7D :: rest) ((0x7D :: rest).length + 1) =
          .ok ([], rest) := entries_end (by simp) true
      rw [List.map_nil, Layout.bracketed, List.cons_append, hopen]
      exact congrArg (Except.map _) hend
    | cons f fields =>
      have hlength : fields.length <
          (l.gap (level + 1) ++ (g f ++ (l.further 0x7D level (fields.map g) ++ rest))).length := by
        have hmore := length_further l 0x7D level (fields.map g)
        simp only [List.length_append, List.length_map] at hmore ⊢
        omega
      have hmore := entries_further l level rest (fun e he => h e (List.mem_cons_of_mem _ he)) hlength
      have hall := entries_first (l.gap_blank (level + 1)) (h f List.mem_cons_self)
        (endsNumber_further l (by decide) _ _ _) hmore
      rw [List.map_cons, Layout.bracketed, List.append_assoc, List.append_assoc, List.cons_append, hopen,
        hall]
      simp only [Except.map, hfields]

end

/-! ## Reading values -/

/-- The value has whole numbers only, no object in it repeats a name, and at most so many
brackets are open at a time in its text. -/
inductive IsExact : (depth : Nat) → Json → Prop
  | null {depth : Nat} : IsExact depth .null
  | bool {depth : Nat} (b : Bool) : IsExact depth (.bool b)
  | whole {depth : Nat} (n : Int) (fits : -2 ^ 63 ≤ n ∧ n < 2 ^ 64) :
      IsExact depth (.number (.whole n fits))
  | string {depth : Nat} (s : String) : IsExact depth (.string s)
  | array {depth : Nat} {items : List Json} (h : ∀ x ∈ items, IsExact depth x) :
      IsExact (depth + 1) (.array items)
  | object {depth : Nat} {fields : Fields} (hnames : fields.names.Nodup)
      (h : ∀ f ∈ fields, IsExact depth f.2) : IsExact (depth + 1) (.object fields)

theorem isReadAs_of_octet {depth : Nat} {text s : Bytes} {v : Json} {b : UInt8} (htext : text = b :: s)
    (hb : Blank.isAscii b = false ∧ b ≠ 0x5D)
    (hread : ∀ nested rest, endsNumber rest = true → valueWith nested (text ++ rest) = .ok (v, rest)) :
    IsReadAs depth text v := by
  obtain ⟨nested, hvalue⟩ := value_eq depth
  refine ⟨⟨b, s, htext, hb⟩, fun rest hrest => ?_⟩
  rw [hvalue]
  exact hread nested rest hrest

theorem intText_octets (n : Int) :
    ∃ b s, Utf8.encode (intText n) = b :: s ∧ Blank.isAscii b = false ∧ b ≠ 0x5D := by
  unfold intText
  split
  · exact ⟨0x2D, _, rfl, by decide, by decide⟩
  · obtain ⟨b, s, htext, hdigit⟩ := digits_octets n.natAbs
    exact ⟨b, s, htext, isAscii_of_isDigit hdigit, ne_of_isDigit hdigit (by decide)⟩

/-- An exact value is read back from any layout of its text. -/
theorem isReadAs_write (l : Layout) {depth : Nat} {v : Json} (h : v.IsExact depth) (level : Nat) :
    IsReadAs depth (l.write level v) v := by
  induction h generalizing level with
  | null => exact isReadAs_of_octet rfl (by decide) fun nested rest _ => rfl
  | bool b =>
    cases b with
    | false => exact isReadAs_of_octet rfl (by decide) fun nested rest _ => rfl
    | true => exact isReadAs_of_octet rfl (by decide) fun nested rest _ => rfl
  | whole n fits =>
    obtain ⟨b, s, htext, hb⟩ := intText_octets n
    exact isReadAs_of_octet htext hb fun nested rest hrest => valueWith_whole nested fits hrest
  | string s =>
    have htext := encode_writeString s.toList []
    rw [List.append_nil] at htext
    refine isReadAs_of_octet htext (by decide) fun nested rest _ => ?_
    have hopen : ∀ s, valueWith nested (0x22 :: s) = (stringText s).map fun r => (.string r.1, r.2) :=
      fun s => rfl
    have hwritten : l.write level (.string s) = Utf8.encode (writeString s.toList) := rfl
    rw [hwritten, encode_writeString, hopen, stringText_written]
    rfl
  | array _ ih =>
    rw [Layout.write, Layout.writeItems_eq]
    exact isReadAs_array l level fun x hx => ih x hx (level + 1)
  | object hnames _ ih =>
    rw [Layout.write, Layout.writeFields_eq]
    exact isReadAs_object l level hnames fun f hf => isEntryAs_assigned l f.1 (ih f hf (level + 1))

end HttpCalls.Json
