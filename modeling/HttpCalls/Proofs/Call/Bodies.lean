-- Bodies that are written and read again. Whatever features the two codecs have, what is read
-- is the value of the body; only the null entries of a mapping can be left out, and only the
-- array around a single item can be taken off.
import HttpCalls.Call.Codec
import HttpCalls.Proofs.Json.ReadBack

namespace HttpCalls

open Json

/-! ## Values of bodies -/

def RequestBody.value : RequestBody → Json
  | .fields entries => .object entries
  | .object v => v

/-- The body without the null entries of a mapping. A null deeper within stays, as does one in a
body of the other kind. -/
def RequestBody.withoutNulls : RequestBody → RequestBody
  | .fields entries => .fields (entries.filter fun e => e.2 ≠ .null)
  | .object v => .object v

/-- The item of an array of one item; any other value as it is. -/
def Json.soleItem : Json → Json
  | .array [v] => v
  | v => v

theorem Json.IsExact.withoutNulls {depth : Nat} {body : RequestBody} (h : body.value.IsExact depth) :
    body.withoutNulls.value.IsExact depth := by
  cases body with
  | object v => exact h
  | fields entries =>
    cases h with
    | object hnames hall =>
      apply IsExact.object
      · exact hnames.sublist (List.filter_sublist.map _)
      · exact fun f hf => hall f (List.mem_filter.mp hf).1

namespace Codec

theorem written_eq (codec : Codec) (body : RequestBody) :
    codec.written body = if codec.writeNullMapValues then body.value else body.withoutNulls.value := by
  have hnull : (fun e : String × Json => !e.2.isNull) = fun e => decide (e.2 ≠ .null) := by
    funext ⟨k, v⟩
    cases v <;> simp [Json.isNull]
  cases body with
  | object v => exact (ite_self v).symm
  | fields entries =>
    simp only [written, RequestBody.value, RequestBody.withoutNulls, hnull]
    split
    · rfl
    · rfl

/-- A codec writes one layout of the value or another. -/
theorem encode_eq (codec : Codec) (body : RequestBody) :
    ∃ l : Layout, codec.encode body = l.write 0 (codec.written body) := by
  unfold encode encodeText
  cases codec.indentOutput with
  | true => exact ⟨.indented, encode_indented 0 _⟩
  | false => exact ⟨.compact, encode_compact 0 _⟩

theorem decode_write (codec : Codec) (l : Layout) {v : Json} (h : v.IsExact 127) :
    codec.decode (l.write 0 v) = .ok (some (codec.unwrapped v)) := by
  have hread := isReadAs_write l h 0
  have hfull : (l.write 0 v).all Blank.isAscii = false := by
    obtain ⟨b, s, htext, hb, -⟩ := hread.starts
    rw [htext, List.all_cons, hb, Bool.false_and]
  have hparse : Json.parse (l.write 0 v) = .ok v := by
    have hall := hread.read [] rfl
    rw [List.append_nil] at hall
    rw [Json.parse, mapError_eq_ok, Reader.document, Reader.maxDepth, hall]
    rfl
  unfold decode
  rw [hfull, hparse]
  rfl

theorem unwrapped_eq (codec : Codec) (v : Json) :
    codec.unwrapped v = if codec.unwrapSingleValueArrays then v.soleItem else v := by
  unfold unwrapped Json.soleItem
  split
  · rfl
  · simp

end Codec

/-- An exact body is read back as its value, without the null entries of a mapping if these are
not written. -/
theorem bodies_are_read_back (writer reader : Codec) (body : RequestBody) (h : body.value.IsExact 127) :
    let v := if writer.writeNullMapValues then body.value else body.withoutNulls.value
    reader.decode (writer.encode body) =
      .ok (some (if reader.unwrapSingleValueArrays then v.soleItem else v)) := by
  intro v
  have hexact : v.IsExact 127 := by
    unfold v
    split
    · exact h
    · exact h.withoutNulls
  obtain ⟨l, hencode⟩ := writer.encode_eq body
  have hwritten : writer.written body = v := writer.written_eq body
  rw [hencode, hwritten, reader.decode_write l hexact, reader.unwrapped_eq]

/-- A null that is left out of a mapping, nulls that stay, and an array that is taken off. -/
theorem a_mapping_and_an_array_around_an_object :
    let writer : Codec := { indentOutput := true, writeNullMapValues := false }
    let reader : Codec := { unwrapSingleValueArrays := true, failOnEmptyBody := true }
    let kept : Fields := [("name", .string "Zoë \"Z\"\n\u0001"), ("ids", .array [.null, .object []]),
      ("low", .number (.whole (-2 ^ 63) (by decide))), ("high", .number (.whole (2 ^ 64 - 1) (by decide)))]
    let entries : Fields := ("gone", .null) :: kept
    reader.decode (writer.encode (.fields entries)) = .ok (some (.object kept)) ∧
      reader.decode (writer.encode (.object (.array [.object entries]))) = .ok (some (.object entries)) := by
  intro writer reader kept entries
  have hids : ∀ depth, (Json.array [.null, .object []]).IsExact (depth + 2) := by
    intro depth
    apply IsExact.array
    intro x hx
    simp only [List.mem_cons, List.not_mem_nil, or_false] at hx
    rcases hx with rfl | rfl
    · exact .null
    · exact .object List.nodup_nil (by simp)
  have hentries : ∀ depth, (Json.object entries).IsExact (depth + 3) := by
    intro depth
    apply IsExact.object (by decide)
    intro f hf
    simp only [entries, kept, List.mem_cons, List.not_mem_nil, or_false] at hf
    rcases hf with rfl | rfl | rfl | rfl | rfl
    · exact .null
    · exact .string _
    · exact hids depth
    · exact .whole _ _
    · exact .whole _ _
  have harray : (Json.array [.object entries]).IsExact 127 := by
    apply IsExact.array
    intro x hx
    rw [List.mem_singleton] at hx
    rw [hx]
    exact hentries 123
  have hkept : (RequestBody.fields entries).withoutNulls.value = .object kept := by decide
  constructor
  · rw [← hkept]
    exact bodies_are_read_back writer reader (.fields entries) (hentries 124)
  · exact bodies_are_read_back writer reader (.object (.array [.object entries])) harray

end HttpCalls
