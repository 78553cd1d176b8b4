-- From the parameters of a call to a request. The first body parameter ends the
-- search for headers and fields, while every implicit or path parameter has its
-- say in the URI. The fields of the body help out where a variable has no value.
import HttpCalls.Call.Basic
import HttpCalls.Template.Expand
import HttpCalls.Text.Kebab

namespace HttpCalls

/-- A request, not yet bound to an endpoint. -/
structure Request where
  method : Method
  /-- The expanded path and query. -/
  uri : List Char
  headers : Headers := []
  body : Option RequestBody := none
deriving DecidableEq

/-! ## Bodies -/

/-- The body of a body parameter. -/
def RequestBody.ofParam (kind : BodyKind) (value : Json) : RequestBody :=
  match kind, value with
  | .mapping, .object entries => .fields entries
  | _, value => .object value

/-- The entries of a body that may stand in for variables of the URI. -/
def RequestBody.substitutes : RequestBody → Fields
  | .fields entries => entries
  | .object (.object entries) => entries.filter (!·.2.isNull)
  | .object _ => []

/-! ## Headers -/

/-- The texts of a list of scalars; nothing if one of them is no scalar. -/
def scalarTexts? : List Json → Option (List (List Char))
  | [] => some []
  | v :: more => v.scalarText?.bind fun text => (scalarTexts? more).map (text :: ·)

/-- The text of a header: a scalar, or a list of scalars with commas between. -/
def headerText? : Json → Option (List Char)
  | .array items => (scalarTexts? items).map (Text.joined [','])
  | v => v.scalarText?

/-- The name under which a header parameter is sent. -/
def Param.headerName (p : Param) (explicit : Option String) : List Char :=
  match explicit with
  | some name => name.toList
  | none => Kebab.ofText p.name.toList

/-- The header of a parameter, if its name and its text are legal. -/
def Param.header? (p : Param) : Option (HeaderName × HeaderValue) :=
  match p.role with
  | .header explicit =>
    (headerText? p.value).bind fun text =>
      (HeaderName.ofText? (p.headerName explicit)).bind fun name =>
        (HeaderValue.ofText? text).map fun value => (name, value)
  | _ => none

/-! ## Sorting the parameters -/

/-- Whether the parameter is the body. -/
def Param.isBody (p : Param) : Bool :=
  match p.role with
  | .body _ => true
  | _ => false

/-- Whether the parameter gives a value to the URI. -/
def Param.isUriValue (p : Param) : Bool := p.role = .implicit || p.role = .path

/-- The parameters before the first body. -/
def beforeBody (params : List Param) : List Param := params.takeWhile (!·.isBody)

/-- The body of the first body parameter. -/
def bodyOf (params : List Param) : Option RequestBody :=
  params.findSome? fun p =>
    match p.role with
    | .body kind => some (.ofParam kind p.value)
    | _ => none

/-- The headers of the parameters before the first body. -/
def headersOf (params : List Param) : Headers := (beforeBody params).filterMap Param.header?

/-- The implicit parameters before the first body that name no variable, as fields. -/
def fieldsOf (names : List String) (params : List Param) : Fields :=
  Fields.ofList (((beforeBody params).filter fun p =>
    p.role = .implicit && !names.contains p.name).map fun p => (p.name, p.value))

/-- The values that the parameters give to the URI. -/
def uriValues (params : List Param) : Fields :=
  Fields.ofList ((params.filter Param.isUriValue).map fun p => (p.name, p.value))

/-! ## The request -/

/-- Whether every variable has a value other than null. -/
def satisfies (values : Fields) (names : List String) : Bool :=
  names.all fun name =>
    match values.value? name with
    | some v => !v.isNull
    | none => false

/-- The body that the parameters make: the first body parameter, else the fields, if any. -/
def requestBody (names : List String) (params : List Param) : Option RequestBody :=
  match bodyOf params with
  | some body => some body
  | none =>
    let fields := fieldsOf names params
    if fields.isEmpty then none else some (.fields fields)

/-- The values of the URI, with those of the body if a variable lacks one. -/
def allValues (names : List String) (values : Fields) : Option RequestBody → Fields
  | some body => if satisfies values names then values else Fields.putAll values body.substitutes
  | none => values

/-- The request of a method and parameters on a template. -/
def Request.build (template : Template) (method : Method) (params : List Param) : Request :=
  let names := template.variableNames
  let values := uriValues params
  let headers := headersOf params
  if !method.permitsBody then { method, uri := template.expand values, headers }
  else
    let body := requestBody names params
    { method
      uri := template.expand (allValues names values body)
      headers
      body := body.filter (!·.isNull) }

end HttpCalls
