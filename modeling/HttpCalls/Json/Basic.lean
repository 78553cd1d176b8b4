-- The values of JSON. An object is a list of entries in the order in which its
-- names were first written. A number is a whole number of 64 bits or a binary64
-- number: a reader tells the two apart and a writer keeps them apart.
import HttpCalls.Decimal.Shortest

namespace HttpCalls

/-- A number: whole, within the bounds of the two kinds of 64-bit word, or real. -/
inductive Number
  | whole (n : Int) (fits : -2 ^ 63 ≤ n ∧ n < 2 ^ 64)
  | real (x : Binary64)
deriving DecidableEq, Repr

/-- The number of a natural number, real when it is too large. -/
def Number.ofNat (n : Nat) : Number :=
  if h : n < 2 ^ 64 then .whole n (by omega) else .real (.ofNat n)

/-- The number of an integer, real when it does not fit. -/
def Number.ofInt (n : Int) : Number :=
  if h : -2 ^ 63 ≤ n ∧ n < 2 ^ 64 then .whole n h
  else if n < 0 then .real (.ofRatio true n.natAbs 1)
  else .real (.ofNat n.natAbs)

/-- The decimal text of an integer. -/
def intText (n : Int) : List Char :=
  if n < 0 then '-' :: Decimal.digits n.natAbs else Decimal.digits n.natAbs

/-- The text of a number. -/
def Number.text : Number → List Char
  | .whole n _ => intText n
  | .real x => Decimal.jsonText x

/-- A value of JSON. -/
inductive Json
  | null
  | bool (b : Bool)
  | number (n : Number)
  | string (s : String)
  | array (items : List Json)
  | object (fields : List (String × Json))
deriving Repr, Inhabited

/-- The entries of an object, in order. -/
abbrev Fields := List (String × Json)

/-! ## Equality -/

mutual

/-- Decides whether two values are equal. -/
def Json.decEq : (a b : Json) → Decidable (a = b)
  | .null, .null => isTrue rfl
  | .bool a, .bool b => if h : a = b then isTrue (by rw [h]) else isFalse (by simp [h])
  | .number a, .number b => if h : a = b then isTrue (by rw [h]) else isFalse (by simp [h])
  | .string a, .string b => if h : a = b then isTrue (by rw [h]) else isFalse (by simp [h])
  | .array a, .array b =>
    match decEqItems a b with
    | isTrue h => isTrue (by rw [h])
    | isFalse h => isFalse (by simp [h])
  | .object a, .object b =>
    match decEqFields a b with
    | isTrue h => isTrue (by rw [h])
    | isFalse h => isFalse (by simp [h])
  | .null, .bool _ | .null, .number _ | .null, .string _ | .null, .array _ | .null, .object _
  | .bool _, .null | .bool _, .number _ | .bool _, .string _ | .bool _, .array _ | .bool _, .object _
  | .number _, .null | .number _, .bool _ | .number _, .string _ | .number _, .array _
  | .number _, .object _ | .string _, .null | .string _, .bool _ | .string _, .number _
  | .string _, .array _ | .string _, .object _ | .array _, .null | .array _, .bool _
  | .array _, .number _ | .array _, .string _ | .array _, .object _ | .object _, .null
  | .object _, .bool _ | .object _, .number _ | .object _, .string _ | .object _, .array _ =>
    isFalse (by simp)

/-- Decides whether two lists of values are equal. -/
def Json.decEqItems : (a b : List Json) → Decidable (a = b)
  | [], [] => isTrue rfl
  | [], _ :: _ => isFalse (by simp)
  | _ :: _, [] => isFalse (by simp)
  | x :: xs, y :: ys =>
    match Json.decEq x y, decEqItems xs ys with
    | isTrue h, isTrue g => isTrue (by rw [h, g])
    | isFalse h, _ => isFalse (by simp [h])
    | _, isFalse g => isFalse (by simp [g])

/-- Decides whether two lists of entries are equal. -/
def Json.decEqFields : (a b : List (String × Json)) → Decidable (a = b)
  | [], [] => isTrue rfl
  | [], _ :: _ => isFalse (by simp)
  | _ :: _, [] => isFalse (by simp)
  | (k, x) :: xs, (l, y) :: ys =>
    if h : k = l then
      match Json.decEq x y, decEqFields xs ys with
      | isTrue g, isTrue f => isTrue (by rw [h, g, f])
      | isFalse g, _ => isFalse (by simp [g])
      | _, isFalse f => isFalse (by simp [f])
    else isFalse (by simp [h])

end

instance : DecidableEq Json := Json.decEq

/-! ## Objects -/

/-- The value under a name. -/
def Fields.value? (fields : Fields) (name : String) : Option Json :=
  match fields with
  | [] => none
  | (k, v) :: rest => if k = name then some v else Fields.value? rest name

/-- The entries with `value` under `name`: in place when the name is there, else at the end. -/
def Fields.put (fields : Fields) (name : String) (value : Json) : Fields :=
  match fields with
  | [] => [(name, value)]
  | (k, v) :: rest => if k = name then (k, value) :: rest else (k, v) :: Fields.put rest name value

/-- All entries of `more` put into `fields`, one after the other. -/
def Fields.putAll (fields more : Fields) : Fields :=
  more.foldl (fun acc (k, v) => Fields.put acc k v) fields

/-- The entries of a list with repeated names: each name at its first place with its last value. -/
def Fields.ofList (entries : List (String × Json)) : Fields := Fields.putAll [] entries

/-- A put value is found again, and no other one is touched. -/
theorem Fields.value?_put (fields : Fields) (name other : String) (value : Json) :
    (Fields.put fields name value).value? other =
      if name = other then some value else fields.value? other := by
  induction fields with
  | nil => simp [Fields.put, Fields.value?]
  | cons f rest ih =>
    obtain ⟨k, v⟩ := f
    by_cases hk : k = name
    · subst hk
      by_cases ho : k = other <;> simp [Fields.put, Fields.value?, ho]
    · by_cases ho : k = other
      · subst ho
        simp [Fields.put, Fields.value?, hk, Ne.symm hk]
      · simp [Fields.put, Fields.value?, hk, ho, ih]

namespace Json

/-- Whether this is `null`. -/
def isNull : Json → Bool
  | .null => true
  | _ => false

/-- The text of a string, a number or a truth value; nothing else has one. -/
def scalarText? : Json → Option (List Char)
  | .string s => some s.toList
  | .number n => some n.text
  | .bool true => some "true".toList
  | .bool false => some "false".toList
  | _ => none

/-- The value of a natural number. -/
def ofNat (n : Nat) : Json := .number (.ofNat n)

end Json

end HttpCalls
