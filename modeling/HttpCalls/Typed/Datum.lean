-- Values to be read as something typed, whatever format they were written in.
import HttpCalls.Json.Basic

namespace HttpCalls

/-- A value without a type. -/
inductive Datum
  | unit
  | bool (b : Bool)
  | whole (n : Int)
  | real (x : Binary64)
  | text (s : String)
  | list (items : List Datum)
  | table (entries : List (String × Datum))
deriving Repr, Inhabited

/-- What a value is, as a misfit reports it. -/
inductive Found
  | unit | bool (b : Bool)
  /-- A whole number of 64 bits that is not negative. -/
  | natural (n : Nat)
  /-- A negative whole number of 64 bits. -/
  | negative (n : Int)
  /-- A whole number of more than 64 bits. -/
  | wide (n : Int)
  | real (x : Binary64) | text (s : String) | list | table
deriving DecidableEq, Repr

namespace Datum

/-- What a value is. -/
def found : Datum → Found
  | .unit => .unit
  | .bool b => .bool b
  | .whole n =>
    if 0 ≤ n ∧ n < 2 ^ 64 then .natural n.toNat
    else if -2 ^ 63 ≤ n ∧ n < 0 then .negative n
    else .wide n
  | .real x => .real x
  | .text s => .text s
  | .list _ => .list
  | .table _ => .table

/-- The entries of a table in the order of their names, with `value` under `name`. -/
def putSorted (name : String) (value : Datum) : List (String × Datum) → List (String × Datum)
  | [] => [(name, value)]
  | (k, v) :: more =>
    if name = k then (name, value) :: more
    else if name < k then (name, value) :: (k, v) :: more
    else (k, v) :: putSorted name value more

/-- The table of entries, in the order of their names; the last one of a name counts. -/
def sortedTable (entries : List (String × Datum)) : Datum :=
  .table (entries.foldl (fun acc (name, v) => putSorted name v acc) [])

end Datum

mutual

/-- A value of JSON as a value without a type. -/
def Json.datum : Json → Datum
  | .null => .unit
  | .bool b => .bool b
  | .number (.whole n _) => .whole n
  | .number (.real x) => .real x
  | .string s => .text s
  | .array items => .list (datumItems items)
  | .object fields => .table (datumFields fields)

/-- The items of an array as values without types. -/
def Json.datumItems : List Json → List Datum
  | [] => []
  | v :: more => v.datum :: datumItems more

/-- The entries of an object as values without types. -/
def Json.datumFields : List (String × Json) → List (String × Datum)
  | [] => []
  | (name, v) :: more => (name, v.datum) :: datumFields more

end

end HttpCalls
