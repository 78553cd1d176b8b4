-- Reading typed values. A misfit says where it lies, what was found and what was
-- wanted. A strict reader refuses a list that is longer than its record and a table of
-- several entries in the place of a choice; a lenient one passes over what is left.
import HttpCalls.Typed.Datum

namespace HttpCalls

/-- What a reader wants. -/
inductive Wanted
  | text | bool | list | table | unit
  | whole (name : String)
  | record (name : String)
  | choice (name : String)
  | anyChoice | singleEntry | fewerItems
deriving DecidableEq, Repr

/-- Why a value does not fit. -/
inductive Misfit
  | type (found : Found) (wanted : Wanted)
  | value (found : Found) (wanted : Wanted)
  | length (count : Nat) (wanted : Wanted)
  | variant (name : String) (known : List String)
  | custom (message : String)
deriving DecidableEq, Repr

/-- A misfit and the path to it. -/
structure Misplaced where
  path : List String
  misfit : Misfit
deriving DecidableEq, Repr

/-- What a typed reader gives. -/
abbrev Typed (α : Type) := Except Misplaced α

/-- How a reader takes what is left over. -/
inductive Rigour
  | strict | lenient
deriving DecidableEq, Repr

namespace Datum

/-- A misfit at the place of the reader. -/
def misfit {α : Type} (m : Misfit) : Typed α := .error ⟨[], m⟩

/-- The result of a reader that stands below a key. -/
def under {α : Type} (key : String) (r : Typed α) : Typed α :=
  r.mapError fun e => { e with path := key :: e.path }

/-! ## Scalars -/

/-- Reads a whole number between two bounds. -/
def asWhole (name : String) (low high : Int) (v : Datum) : Typed Int :=
  match v with
  | .whole n =>
    if low ≤ n ∧ n ≤ high then .ok n
    else
      match v.found with
      | .wide n => misfit (.type (.wide n) (.whole name))
      | f => misfit (.value f (.whole name))
  | v => misfit (.type v.found (.whole name))

/-- Reads a size: a natural number of 64 bits. -/
def asSize (v : Datum) : Typed Nat := (v.asWhole "usize" 0 (2 ^ 64 - 1)).map Int.toNat

/-- Reads a truth value. -/
def asBool : Datum → Typed Bool
  | .bool b => .ok b
  | v => misfit (.type v.found .bool)

/-- Reads a text. -/
def asText : Datum → Typed String
  | .text s => .ok s
  | v => misfit (.type v.found .text)

/-- Reads a value that may be missing. -/
def asOptional {α : Type} (value : Datum → Typed α) : Datum → Typed (Option α)
  | .unit => .ok none
  | v => (value v).map some

/-! ## Lists and tables -/

/-- Reads the items of a list, the first one of which has the index `i`. -/
def asItems {α : Type} (item : Datum → Typed α) (i : Nat) : List Datum → Typed (List α)
  | [] => .ok []
  | v :: more => do
    let x ← under (toString i) (item v)
    let xs ← asItems item (i + 1) more
    return x :: xs

/-- Reads a list. -/
def asList {α : Type} (item : Datum → Typed α) : Datum → Typed (List α)
  | .list vs => asItems item 0 vs
  | v => misfit (.type v.found .list)

/-- Reads the entries of a table of values of one type. -/
def asNamed {α : Type} (value : Datum → Typed α) : List (String × Datum) → Typed (List (String × α))
  | [] => .ok []
  | (name, v) :: more => do
    let x ← under name (value v)
    let xs ← asNamed value more
    return (name, x) :: xs

/-- Reads a table of values of one type. -/
def asTable {α : Type} (value : Datum → Typed α) : Datum → Typed (List (String × α))
  | .table entries => asNamed value entries
  | v => misfit (.type v.found .table)

/-! ## Choices -/

/-- Reads one of the names of a choice. -/
def variantOf {α : Type} (names : List (String × α)) (name : String) : Typed α :=
  match names.lookup name with
  | some x => .ok x
  | none => misfit (.variant name (names.map (·.1)))

/-- Reads a choice that is written as an entry: its name over nothing. -/
def variantEntry {α : Type} (names : List (String × α)) (name : String) (content : Datum) : Typed α := do
  let x ← variantOf names name
  match content with
  | .unit => return x
  | v => under name (misfit (.type v.found .unit))

/-- Reads a choice without content: its name, or a table with the name over nothing. -/
def asChoice {α : Type} (rigour : Rigour) (choice : String) (names : List (String × α)) : Datum → Typed α
  | .text name => variantOf names name
  | .table [(name, content)] => variantEntry names name content
  | .table [] =>
    match rigour with
    | .strict => misfit (.value .table .singleEntry)
    | .lenient => misfit (.type .table .anyChoice)
  | .table ((name, content) :: _) =>
    match rigour with
    | .strict => misfit (.value .table .singleEntry)
    | .lenient => variantEntry names name content
  | v => misfit (.type v.found (.choice choice))

/-! ## Records -/

/-- A field of a record: its name and what its value does to the record. -/
structure Field (ρ : Type) where
  name : String
  set : Datum → ρ → Typed ρ

/-- Reads the entries of a table into a record; unknown names are passed over. -/
def asEntries {ρ : Type} (fields : List (Field ρ)) (record : ρ) : List (String × Datum) → Typed ρ
  | [] => .ok record
  | (name, v) :: more =>
    match fields.find? (·.name = name) with
    | none => asEntries fields record more
    | some field => do
      let record ← under name (field.set v record)
      asEntries fields record more

/-- Reads the items of a list into the fields of a record, one after the other. -/
def asPositions {ρ : Type} (rigour : Rigour) (record : ρ) (i : Nat) :
    List (Field ρ) → List Datum → Typed ρ
  | field :: fields, v :: more => do
    let record ← under (toString i) (field.set v record)
    asPositions rigour record (i + 1) fields more
  | _, [] => .ok record
  | [], v :: more =>
    match rigour with
    | .strict => misfit (.length (i + (v :: more).length) .fewerItems)
    | .lenient => .ok record

/-- Reads a record with defaults: a table by names, a list by places. -/
def asRecord {ρ : Type} (rigour : Rigour) (name : String) (fields : List (Field ρ)) (defaults : ρ) :
    Datum → Typed ρ
  | .table entries => asEntries fields defaults entries
  | .list items => asPositions rigour defaults 0 fields items
  | v => misfit (.type v.found (.record name))

end Datum

end HttpCalls
