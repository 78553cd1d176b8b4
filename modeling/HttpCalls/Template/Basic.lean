-- URI templates: text with expressions in braces. A template is its text. Its
-- parts, its variables and its expansion are read off that text, so two templates
-- are equal when their texts are.
import HttpCalls.Powers
import HttpCalls.Text.Blank
import HttpCalls.Text.Pieces

namespace HttpCalls

open Text

/-! ## Expressions -/

/-- The operator of an expression. -/
inductive Operator
  | simple | reserved | fragment | label | path | parameter | query | continuation
deriving DecidableEq, Repr

namespace Operator

/-- The operator that a character at the head of an expression names. -/
def ofChar? : Char → Option Operator
  | '+' => some .reserved
  | '#' => some .fragment
  | '.' => some .label
  | '/' => some .path
  | ';' => some .parameter
  | '?' => some .query
  | '&' => some .continuation
  | _ => none

/-- What stands before the first value. -/
def lead : Operator → List Char
  | .simple | .reserved => []
  | .fragment => ['#']
  | .label => ['.']
  | .path => ['/']
  | .parameter => [';']
  | .query => ['?']
  | .continuation => ['&']

/-- What stands between two values. -/
def separator : Operator → List Char
  | .simple | .reserved | .fragment => [',']
  | .label => ['.']
  | .path => ['/']
  | .parameter => [';']
  | .query | .continuation => ['&']

/-- Whether a value is written with its name. -/
def isNamed : Operator → Bool
  | .parameter | .query | .continuation => true
  | _ => false

/-- What follows a name whose value is empty. -/
def ifEmpty : Operator → List Char
  | .query | .continuation => ['=']
  | _ => []

/-- Whether reserved characters and triplets are kept. -/
def keepsReserved : Operator → Bool
  | .reserved | .fragment => true
  | _ => false

end Operator

/-- What a variable asks for beyond its value. -/
inductive Modifier
  /-- The value as it is. -/
  | none
  /-- The members of a composite value one by one. -/
  | explode
  /-- At most so many characters of a scalar. -/
  | limit (count : Nat)
deriving DecidableEq, Repr

/-- A variable in an expression. -/
structure Variable where
  name : String
  modifier : Modifier
deriving DecidableEq, Repr

/-- The number that a text of ASCII digits spells, with an optional plus sign, below `2 ^ 64`. -/
def count? (text : List Char) : Option Nat :=
  let digits := (dropStart? ['+'] text).getD text
  if digits.isEmpty || !digits.all Char.isDigit then none
  else
    let n := digits.foldl (fun n c => n * 10 + (c.toNat - '0'.toNat)) 0
    if n < 2 ^ 64 then some n else none

/-- Reads a variable: a final star explodes, a colon and a count limit; all else is name. -/
def Variable.ofText (text : List Char) : Variable :=
  if text.getLast? = some '*' then { name := String.ofList text.dropLast, modifier := .explode }
  else
    match cut? ':' text with
    | some (name, length) =>
      match count? length with
      | some n => { name := String.ofList name, modifier := .limit n }
      | none => { name := String.ofList text, modifier := .none }
    | none => { name := String.ofList text, modifier := .none }

/-- An operator and its variables. -/
structure Expression where
  operator : Operator
  vars : List Variable
deriving DecidableEq, Repr

/-- Reads what stands between two braces. -/
def Expression.ofText (body : List Char) : Expression :=
  let (operator, list) :=
    match body with
    | [] => (Operator.simple, body)
    | c :: rest =>
      match Operator.ofChar? c with
      | some op => (op, rest)
      | none => (Operator.simple, body)
  { operator
    vars := (((pieces ',' list).map Blank.trim).filter (!·.isEmpty)).map Variable.ofText }

/-! ## Templates -/

/-- A part of a template. -/
inductive Part
  | literal (text : List Char)
  | expression (e : Expression)
deriving DecidableEq, Repr

/-- A text as a literal part, unless it is empty. -/
def literalPart (text : List Char) : List Part := if text.isEmpty then [] else [.literal text]

/-- The parts of a text. A brace that is never closed is literal, with all that follows it. -/
def partsOf (text : List Char) : List Part :=
  match _h : cut? '{' text with
  | none => literalPart text
  | some (before, rest) =>
    match _g : cut? '}' rest with
    | none => literalPart text
    | some (body, after) => literalPart before ++ .expression (.ofText body) :: partsOf after
termination_by text.length
decreasing_by exact Nat.lt_trans (cut?_length _g) (cut?_length _h)

/-- A URI template. -/
structure Template where
  text : List Char
deriving DecidableEq, Repr

namespace Template

/-- The template that a string spells. -/
def ofString (s : String) : Template := ⟨s.toList⟩

/-- The template as a string. -/
def toString (t : Template) : String := String.ofList t.text

/-- The parts of the template, in order. -/
def parts (t : Template) : List Part := partsOf t.text

end Template

/-- The variables of a part, in order. -/
def Part.vars : Part → List Variable
  | .literal _ => []
  | .expression e => e.vars

/-- The names of a list, each at its first place. -/
def distinct : List String → List String
  | [] => []
  | name :: more => name :: (distinct more).filter (· ≠ name)

/-- The names of the variables, in the order in which they appear first. -/
def Template.variableNames (t : Template) : List String :=
  distinct (t.parts.flatMap fun part => part.vars.map (·.name))

/-! ## Nesting -/

/-- The heads of a child that goes on the base without a slash between. -/
def gluedHeads : List (List Char) :=
  [['/'], ['{', '/'], ['{', '?'], ['{', '&'], ['{', '#'], ['{', '.'], ['{', ';'], ['?'], ['#']]

/-- Whether a child goes on its base without a slash between. -/
def isGlued (child : List Char) : Bool := gluedHeads.any (startsWith · child)

/-- The text without the slashes at its end. -/
def withoutFinalSlashes (text : List Char) : List Char := (text.reverse.dropWhile (· = '/')).reverse

theorem withoutFinalSlashes_append (a b : List Char) :
    withoutFinalSlashes (a ++ b) =
      if withoutFinalSlashes b = [] then withoutFinalSlashes a else a ++ withoutFinalSlashes b := by
  unfold withoutFinalSlashes
  rw [List.reverse_append, List.dropWhile_append]
  simp only [List.isEmpty_iff, List.reverse_eq_nil_iff]
  split
  · rfl
  · simp

/-- Lays a child behind the template, path to path with a single slash. -/
def Template.nest (t : Template) (child : List Char) : Template :=
  if child.isEmpty then t
  else if isGlued child then ⟨withoutFinalSlashes t.text ++ child⟩
  else ⟨withoutFinalSlashes t.text ++ '/' :: child⟩

end HttpCalls
