-- Expanding a URI template against named values. A variable without a value, with
-- `null`, or with a composite that has no scalar member leaves no trace.
import HttpCalls.Json.Basic
import HttpCalls.Template.Basic
import HttpCalls.Text.Percent

namespace HttpCalls

open Text

/-! ## Characters -/

/-- The reserved characters of a URI. -/
def reservedCharacters : List Char := ":/?#[]@!$&'()*+,;=".toList

/-- The characters that an operator leaves as they are. -/
def Operator.keeps (op : Operator) (c : Char) : Bool :=
  Percent.isUnreserved c || (op.keepsReserved && (c = '%' || reservedCharacters.contains c))

/-- A text as an operator writes it. -/
def Operator.encode (op : Operator) (text : List Char) : List Char := Percent.encode op.keeps text

/-! ## Values -/

/-- A name and an encoded text, as an operator with names writes them. -/
def Operator.pair (op : Operator) (name : String) (encoded : List Char) : List Char :=
  if encoded.isEmpty then name.toList ++ op.ifEmpty else name.toList ++ '=' :: encoded

/-- A scalar under a name. -/
def expandScalar (op : Operator) (v : Variable) (text : List Char) : List Char :=
  let text :=
    match v.modifier with
    | .limit n => text.take n
    | _ => text
  if op.isNamed then op.pair v.name (op.encode text) else op.encode text

/-- The name of a variable before the text of a composite value that is written in one piece. -/
def Operator.headed (op : Operator) (name : String) (text : List Char) : List Char :=
  if op.isNamed then name.toList ++ '=' :: text else text

/-- The scalar members of a list under a name, if there are any. -/
def expandList (op : Operator) (v : Variable) (items : List Json) : Option (List Char) :=
  let texts := (items.filterMap Json.scalarText?).map op.encode
  if texts.isEmpty then none
  else if v.modifier = .explode then
    some (joined op.separator (texts.map (op.headed v.name)))
  else some (op.headed v.name (joined [','] texts))

/-- The scalar entries of an object under a name, if there are any. -/
def expandObject (op : Operator) (v : Variable) (fields : Fields) : Option (List Char) :=
  let pairs := fields.filterMap fun (k, value) =>
    value.scalarText?.map fun text => (op.encode k.toList, op.encode text)
  if pairs.isEmpty then none
  else if v.modifier = .explode then
    some (joined op.separator (pairs.map fun (k, text) => k ++ '=' :: text))
  else some (op.headed v.name (joined [','] (pairs.map fun (k, text) => k ++ ',' :: text)))

/-- The text of a value under a variable, if it has one. -/
def expandValue (op : Operator) (v : Variable) : Json → Option (List Char)
  | .null => none
  | .array items => expandList op v items
  | .object fields => expandObject op v fields
  | scalar => scalar.scalarText?.map (expandScalar op v)

/-! ## Expressions and templates -/

/-- The text of an expression: the lead, then the values that are there. -/
def Expression.expand (e : Expression) (values : Fields) : List Char :=
  let texts := e.vars.filterMap fun v => (values.value? v.name).bind (expandValue e.operator v)
  if texts.isEmpty then [] else e.operator.lead ++ joined e.operator.separator texts

/-- The text of a part. -/
def Part.expand (values : Fields) : Part → List Char
  | .literal text => text
  | .expression e => e.expand values

/-- The text of a template against values. -/
def Template.expand (t : Template) (values : Fields) : List Char := t.parts.flatMap (Part.expand values)

end HttpCalls
