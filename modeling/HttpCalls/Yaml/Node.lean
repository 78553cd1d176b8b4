-- The nodes of a YAML document, and what they mean. A plain scalar is what it looks
-- like, a quoted one is a text. The keys of a mapping count as texts.
import HttpCalls.Decimal.Reading
import HttpCalls.Text.Hex
import HttpCalls.Text.Pieces
import HttpCalls.Typed.Datum

namespace HttpCalls.Yaml

/-- A node. -/
inductive Node
  | scalar (text : List Char) (plain : Bool) (tag : Option String)
  | sequence (items : List Node) (tag : Option String)
  | mapping (entries : List (Node × Node)) (tag : Option String)
deriving Repr, Inhabited

namespace Node

/-- The node where nothing is written. -/
def empty : Node := .scalar [] true none

/-- The node with a tag, unless it has one. -/
def withTag (tag : Option String) : Node → Node
  | .scalar text plain own => .scalar text plain (own <|> tag)
  | .sequence items own => .sequence items (own <|> tag)
  | .mapping entries own => .mapping entries (own <|> tag)

end Node

/-! ## Plain scalars -/

/-- Whether a text stands for nothing. -/
def isNull (text : List Char) : Bool := ["", "null", "Null", "NULL", "~"].contains (String.ofList text)

/-- The truth value that a text stands for. -/
def truth? (text : List Char) : Option Bool :=
  if ["true", "True", "TRUE"].contains (String.ofList text) then some true
  else if ["false", "False", "FALSE"].contains (String.ofList text) then some false
  else none

/-- Whether a text is of digits but no number, because it starts with a zero. -/
def isPadded (text : List Char) : Bool :=
  match (Decimal.cutSign text).2 with
  | '0' :: c :: rest => (c :: rest).all Char.isDigit
  | _ => false

/-- The number that one digit of a base or more spell. -/
def inBase? (base : Nat) (ds : List Char) : Option Nat :=
  if ds.isEmpty then none
  else Hex.number? base ds

/-- The base that a beginning announces, and the rest. -/
def cutBase? (text : List Char) : Option (Nat × List Char) :=
  match text with
  | '0' :: 'x' :: rest => some (16, rest)
  | '0' :: 'o' :: rest => some (8, rest)
  | '0' :: 'b' :: rest => some (2, rest)
  | _ => none

/-- The magnitude of a whole number behind its sign. -/
def magnitude? (padded : Bool) (text : List Char) : Option Nat :=
  match (cutBase? text).bind fun (base, rest) => inBase? base rest with
  | some n => some n
  | none => if padded then none else inBase? 10 text

/-- The whole number that a text stands for, of at most 128 bits. -/
def whole? (text : List Char) : Option Int :=
  match Decimal.cutSign text with
  | (true, rest) =>
    (magnitude? (isPadded text) rest).bind fun n => if n ≤ 2 ^ 127 then some (-(n : Int)) else none
  | (false, rest) =>
    (magnitude? (isPadded text) rest).bind fun n => if n < 2 ^ 128 then some (n : Int) else none

/-- The real number that a text stands for. -/
def real? (text : List Char) : Option Binary64 :=
  let (negative, rest) := Decimal.cutSign text
  if [".inf", ".Inf", ".INF"].contains (String.ofList rest) then some (.infinity negative)
  else if [".nan", ".NaN", ".NAN"].contains (String.ofList text) then some (.ofMagnitude false (0x7FF8 * 2 ^ 48))
  else if isPadded text then none
  else (Decimal.real? text).filter Binary64.isFinite

/-- What a plain scalar stands for. -/
def plainDatum (text : List Char) : Datum :=
  if isNull text then .unit
  else
    match truth? text, whole? text, real? text with
    | some b, _, _ => .bool b
    | none, some n, _ => .whole n
    | none, none, some x => .real x
    | none, none, none => .text (String.ofList text)

/-! ## Nodes -/

/-- The beginning of the tags that everybody knows. -/
def coreTag : String := "tag:yaml.org,2002:"

/-- What a scalar with a tag stands for, if it fits its tag. Tags of one's own have no meaning. -/
def taggedDatum? (text : List Char) (tag : String) : Option Datum :=
  if tag.startsWith "!" then none
  else if tag = coreTag ++ "bool" then (truth? text).map .bool
  else if tag = coreTag ++ "int" then (whole? text).map .whole
  else if tag = coreTag ++ "float" then (real? text).map .real
  else if tag = coreTag ++ "null" then if isNull text && !text.isEmpty then some .unit else none
  else some (.text (String.ofList text))

/-- What a scalar stands for. The tag `!` says nothing about it. -/
def scalarDatum? (text : List Char) (plain : Bool) (tag : Option String) : Option Datum :=
  match tag.filter (· ≠ "!") with
  | some tag => taggedDatum? text tag
  | none => some (if plain then plainDatum text else .text (String.ofList text))

/-- The name that a node is as a key. -/
def keyText? : Node → Option String
  | .scalar text _ _ => some (String.ofList text)
  | _ => none

/-- Whether a collection has a tag of its own. -/
def hasOwnTag (tag : Option String) : Bool :=
  match tag with
  | some t => t.startsWith "!"
  | none => false

/-- The entries of a mapping with their keys as names. -/
def entries? (value : Node → Option Datum) : List (Node × Node) → Option (List (String × Datum))
  | [] => some []
  | (k, v) :: more =>
    (keyText? k).bind fun name => (value v).bind fun d => (entries? value more).map ((name, d) :: ·)

/-- What a node stands for; collections go at most `depth` levels deep. -/
def Node.datum? : (depth : Nat) → Node → Option Datum
  | _, .scalar text plain tag => scalarDatum? text plain tag
  | 0, _ => none
  | depth + 1, .sequence items tag =>
    if hasOwnTag tag then none else (items.mapM (Node.datum? depth)).map .list
  | depth + 1, .mapping entries tag =>
    if hasOwnTag tag then none else (entries? (Node.datum? depth) entries).map Datum.sortedTable

/-- The table that a node is, whatever its tag; where nothing is written, the table is empty. -/
def Node.table? (depth : Nat) : Node → Option Datum
  | .scalar [] true _ => some (.table [])
  | .mapping entries _ => (entries? (Node.datum? depth) entries).map Datum.sortedTable
  | _ => none

end HttpCalls.Yaml
