-- Values written with blank space between their parts. The compact text and the indented text
-- are two layouts of one text, so that what is shown of all layouts holds for both printers.
import HttpCalls.Json.Writer
import HttpCalls.Proofs.Text.Spelling
import HttpCalls.Text.Blank

namespace HttpCalls.Json

/-! ## Layouts -/

/-- The blank space before each member of a composite and before its end, by level, and behind
the colon of an entry. -/
structure Layout where
  gap : Nat → Bytes
  behindColon : Bytes
  gap_blank : ∀ level, ∀ b ∈ gap level, Blank.isJson b = true
  behindColon_blank : ∀ b ∈ behindColon, Blank.isJson b = true

namespace Layout

/-- The texts of the further members, and the end. -/
def further (l : Layout) (close : UInt8) (level : Nat) : List Bytes → Bytes
  | [] => l.gap level ++ [close]
  | text :: more => 0x2C :: l.gap (level + 1) ++ text ++ l.further close level more

/-- The texts of all members between brackets. -/
def bracketed (l : Layout) (opening close : UInt8) (level : Nat) : List Bytes → Bytes
  | [] => [opening, close]
  | text :: more => opening :: l.gap (level + 1) ++ text ++ l.further close level more

/-- A name before the text of its value. -/
def assigned (l : Layout) (name : String) (text : Bytes) : Bytes :=
  Utf8.encode (writeString name.toList) ++ (0x3A :: l.behindColon ++ text)

mutual

/-- The text of a value that stands at a level. -/
def write (l : Layout) (level : Nat) : Json → Bytes
  | .array items => l.bracketed 0x5B 0x5D level (l.writeItems (level + 1) items)
  | .object fields => l.bracketed 0x7B 0x7D level (l.writeFields (level + 1) fields)
  | scalar => Utf8.encode scalar.compact

def writeItems (l : Layout) (level : Nat) : List Json → List Bytes
  | [] => []
  | x :: xs => l.write level x :: l.writeItems level xs

def writeFields (l : Layout) (level : Nat) : List (String × Json) → List Bytes
  | [] => []
  | (k, v) :: fields => l.assigned k (l.write level v) :: l.writeFields level fields

end

theorem writeItems_eq (l : Layout) (level : Nat) (xs : List Json) : l.writeItems level xs = xs.map (l.write level) := by
  induction xs with
  | nil => rfl
  | cons x xs ih => rw [writeItems, ih, List.map_cons]

theorem writeFields_eq (l : Layout) (level : Nat) (fields : List (String × Json)) :
    l.writeFields level fields = fields.map fun (k, v) => l.assigned k (l.write level v) := by
  induction fields with
  | nil => rfl
  | cons f fields ih => rw [writeFields, ih, List.map_cons]

end Layout

/-! ## The two printers -/

def Layout.compact : Layout where
  gap _ := []
  behindColon := []
  gap_blank := by simp
  behindColon_blank := by simp

theorem newline_blank (level : Nat) : ∀ b ∈ Utf8.encode (newline level), Blank.isJson b = true := by
  have hspaces : ∀ n, ∀ b ∈ Utf8.encode (List.replicate n ' '), Blank.isJson b = true := by
    intro n
    induction n with
    | zero => exact fun b hb => absurd hb List.not_mem_nil
    | succ n ih =>
      intro b hb
      rcases List.mem_cons.mp hb with rfl | hb
      · decide
      · exact ih b hb
  intro b hb
  rcases List.mem_cons.mp hb with rfl | hb
  · decide
  · exact hspaces _ b hb

def Layout.indented : Layout where
  gap level := Utf8.encode (newline level)
  behindColon := [0x20]
  gap_blank := newline_blank
  behindColon_blank := List.all_eq_true.mp (by decide)

-- The further members and the end are one text in a layout, so each induction is mutual as the
-- printer is. Both sides of a case are opened by their definitions.
mutual

theorem encode_compact (level : Nat) (v : Json) : Utf8.encode v.compact = Layout.compact.write level v := by
  cases v with
  | array items =>
    cases items with
    | nil => rfl
    | cons x xs =>
      have hx := encode_compact (level + 1) x
      have hxs := encode_compactItems level xs
      change Utf8.encode ('[' :: compact x ++ compactItems xs) =
        0x5B :: Layout.compact.write (level + 1) x ++ Layout.compact.further 0x5D level _
      rw [Utf8.encode_append, hxs, ← hx]
      rfl
  | object fields =>
    cases fields with
    | nil => rfl
    | cons f fields =>
      obtain ⟨k, x⟩ := f
      have hx := encode_compact (level + 1) x
      have hxs := encode_compactFields level fields
      change Utf8.encode ('{' :: writeString k.toList ++ ':' :: compact x ++ compactFields fields) =
        0x7B :: Layout.compact.assigned k (Layout.compact.write (level + 1) x) ++
          Layout.compact.further 0x7D level _
      rw [Utf8.encode_append, Utf8.encode_append, hxs, ← hx]
      rfl
  | _ => rfl

theorem encode_compactItems (level : Nat) (xs : List Json) :
    Utf8.encode (compactItems xs) =
      Layout.compact.further 0x5D level (Layout.compact.writeItems (level + 1) xs) := by
  cases xs with
  | nil => rfl
  | cons x xs =>
    have hx := encode_compact (level + 1) x
    have hxs := encode_compactItems level xs
    change Utf8.encode (',' :: compact x ++ compactItems xs) =
      0x2C :: Layout.compact.write (level + 1) x ++ Layout.compact.further 0x5D level _
    rw [Utf8.encode_append, hxs, ← hx]
    rfl

theorem encode_compactFields (level : Nat) (fields : List (String × Json)) :
    Utf8.encode (compactFields fields) =
      Layout.compact.further 0x7D level (Layout.compact.writeFields (level + 1) fields) := by
  cases fields with
  | nil => rfl
  | cons f fields =>
    obtain ⟨k, x⟩ := f
    have hx := encode_compact (level + 1) x
    have hxs := encode_compactFields level fields
    change Utf8.encode (',' :: writeString k.toList ++ ':' :: compact x ++ compactFields fields) =
      0x2C :: Layout.compact.assigned k (Layout.compact.write (level + 1) x) ++
        Layout.compact.further 0x7D level _
    rw [Utf8.encode_append, Utf8.encode_append, hxs, ← hx]
    rfl

end

mutual

theorem encode_indented (level : Nat) (v : Json) :
    Utf8.encode (v.indented level) = Layout.indented.write level v := by
  cases v with
  | array items =>
    cases items with
    | nil => rfl
    | cons x xs =>
      have hx := encode_indented (level + 1) x
      have hxs := encode_indentedItems level xs
      change Utf8.encode ('[' :: newline (level + 1) ++ indented (level + 1) x ++ indentedItems level xs) =
        0x5B :: Utf8.encode (newline (level + 1)) ++ Layout.indented.write (level + 1) x ++
          Layout.indented.further 0x5D level _
      rw [Utf8.encode_append, Utf8.encode_append, hxs, hx]
      rfl
  | object fields =>
    cases fields with
    | nil => rfl
    | cons f fields =>
      obtain ⟨k, x⟩ := f
      have hx := encode_indented (level + 1) x
      have hxs := encode_indentedFields level fields
      change Utf8.encode ('{' :: newline (level + 1) ++ writeString k.toList ++
          ':' :: ' ' :: indented (level + 1) x ++ indentedFields level fields) =
        0x7B :: Utf8.encode (newline (level + 1)) ++
          Layout.indented.assigned k (Layout.indented.write (level + 1) x) ++
            Layout.indented.further 0x7D level _
      rw [Utf8.encode_append, Utf8.encode_append, Utf8.encode_append, hxs, ← hx,
        List.append_assoc (Utf8.encode _)]
      rfl
  | bool b => cases b <;> rfl
  | _ => rfl

theorem encode_indentedItems (level : Nat) (xs : List Json) :
    Utf8.encode (indentedItems level xs) =
      Layout.indented.further 0x5D level (Layout.indented.writeItems (level + 1) xs) := by
  cases xs with
  | nil =>
    change Utf8.encode (newline level ++ [']']) = Utf8.encode (newline level) ++ [0x5D]
    rw [Utf8.encode_append]
    rfl
  | cons x xs =>
    have hx := encode_indented (level + 1) x
    have hxs := encode_indentedItems level xs
    change Utf8.encode (',' :: newline (level + 1) ++ indented (level + 1) x ++ indentedItems level xs) =
      0x2C :: Utf8.encode (newline (level + 1)) ++ Layout.indented.write (level + 1) x ++
        Layout.indented.further 0x5D level _
    rw [Utf8.encode_append, Utf8.encode_append, hxs, hx]
    rfl

theorem encode_indentedFields (level : Nat) (fields : List (String × Json)) :
    Utf8.encode (indentedFields level fields) =
      Layout.indented.further 0x7D level (Layout.indented.writeFields (level + 1) fields) := by
  cases fields with
  | nil =>
    change Utf8.encode (newline level ++ ['}']) = Utf8.encode (newline level) ++ [0x7D]
    rw [Utf8.encode_append]
    rfl
  | cons f fields =>
    obtain ⟨k, x⟩ := f
    have hx := encode_indented (level + 1) x
    have hxs := encode_indentedFields level fields
    change Utf8.encode (',' :: newline (level + 1) ++ writeString k.toList ++
        ':' :: ' ' :: indented (level + 1) x ++ indentedFields level fields) =
      0x2C :: Utf8.encode (newline (level + 1)) ++
        Layout.indented.assigned k (Layout.indented.write (level + 1) x) ++
          Layout.indented.further 0x7D level _
    rw [Utf8.encode_append, Utf8.encode_append, Utf8.encode_append, hxs, ← hx,
      List.append_assoc (Utf8.encode _)]
    rfl

end

end HttpCalls.Json
