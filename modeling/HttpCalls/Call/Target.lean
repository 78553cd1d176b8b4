-- Reading the value of an outcome as a value of a type.
import HttpCalls.Call.Reply
import HttpCalls.Typed.Wording

namespace HttpCalls

/-- A type that the value of an outcome can be read as. -/
inductive Target
  /-- A whole number between bounds. -/
  | integer (name : String) (low high : Int)
  | bool | string | bytes
  /-- Any value of JSON. -/
  | any
deriving DecidableEq, Repr

namespace Target

/-- Natural numbers of 32 bits. -/
def u32 : Target := .integer "u32" 0 (2 ^ 32 - 1)

/-- Integers of 64 bits. -/
def i64 : Target := .integer "i64" (-2 ^ 63) (2 ^ 63 - 1)

/-- The full name of a type. -/
def name : Target → String
  | .integer name _ _ => name
  | .bool => "bool"
  | .string => "alloc::string::String"
  | .bytes => "alloc::vec::Vec<u8>"
  | .any => "serde_json::value::Value"

/-- Whether a value is of a type. -/
def check (t : Target) (v : Json) : Typed Unit :=
  match t with
  | .integer name low high => (v.datum.asWhole name low high).map fun _ => ()
  | .bool => v.datum.asBool.map fun _ => ()
  | .string => v.datum.asText.map fun _ => ()
  | .bytes => (v.datum.asList (Datum.asWhole "u8" 0 255)).map fun _ => ()
  | .any => .ok ()

end Target

/-- The value of an outcome, if there is one, when it is of a type. -/
def Outcome.typed {φ σ : Type} (o : Outcome φ σ) (t : Target) : Except DispatchError (Option Json) := do
  match ← o.toOptional with
  | none => return none
  | some v =>
    match t.check v with
    | .ok () => return some v
    | .error e => throw (.unsupportedConversion t.name e.misfit.inJson)

end HttpCalls
