-- The description of a call: which service, which operation, how it is mapped to
-- HTTP, with what parameters, and in what shape its result is wanted.
import HttpCalls.Call.Codec
import HttpCalls.Http.Method
import HttpCalls.Text.Pieces

namespace HttpCalls

/-- The strings in a row with `sep` between them. -/
def joinStrings (sep : String) (l : List String) : String :=
  String.ofList (Text.joined sep.toList (l.map String.toList))

/-! ## Who is called -/

/-- A service: a list of segments, the first of which leads to its endpoints. -/
structure ServiceId where
  segments : List String
deriving DecidableEq, Repr

namespace ServiceId

/-- The first segment. -/
def primary? (s : ServiceId) : Option String := s.segments.head?

/-- The segments in a row. -/
def text (s : ServiceId) : String := joinStrings ", " s.segments

/-- The segments in brackets. -/
def bracketed (s : ServiceId) : String := "[" ++ s.text ++ "]"

end ServiceId

/-- An operation: the type that declares it, its name and the types of its arguments. -/
structure OperationKey where
  declaringType : String
  name : String
  argumentTypes : List String
deriving DecidableEq, Repr

namespace OperationKey

/-- The same operation on another type. -/
def onType (key : OperationKey) (type : String) : OperationKey := { key with declaringType := type }

/-- The operation as it is written in a declaration. -/
def text (key : OperationKey) : String :=
  key.declaringType ++ "::" ++ key.name ++ "(" ++ joinStrings ", " key.argumentTypes ++ ")"

end OperationKey

/-! ## With what -/

/-- The two ways in which a parameter is the body. -/
inductive BodyKind
  | mapping | structured
deriving DecidableEq, Repr

/-- What a parameter is for. -/
inductive Role
  /-- A variable of the URI if there is one of its name, else a field of the body. -/
  | implicit
  /-- A variable of the URI. -/
  | path
  /-- A header, under an explicit name or a name made from the parameter's. -/
  | header (name : Option String)
  /-- The body. -/
  | body (kind : BodyKind)
deriving DecidableEq, Repr

/-- A parameter of a call. -/
structure Param where
  name : String
  role : Role
  value : Json
deriving DecidableEq

/-! ## In what shape -/

/-- What one reply of a call holds. -/
inductive Element
  | response | noContent | body
deriving DecidableEq, Repr

/-- The shape of a result. -/
inductive ReturnShape
  | value | optional | response | noContent
  | future (element : Element)
  | stream (type : String) (element : Element)
deriving DecidableEq, Repr

/-- Whether the result is handed out before it is there. -/
def ReturnShape.isNonBlocking : ReturnShape → Bool
  | .future _ | .stream _ _ => true
  | _ => false

/-- The name of the stream type, for a stream. -/
def ReturnShape.streamType? : ReturnShape → Option String
  | .stream type _ => some type
  | _ => none

/-! ## The call -/

/-- The mapping of an operation to HTTP. -/
structure Mapping where
  method : Method
  uri : String
deriving DecidableEq

/-- What the client of a call asks for. -/
structure ClientOptions where
  /-- The path that the operations of the client are nested under. -/
  path : Option String := none
  features : Features := {}
deriving DecidableEq, Repr

/-- A call. -/
structure Call where
  service : ServiceId
  client : ClientOptions := {}
  operation : OperationKey
  mapping : Option Mapping := none
  params : List Param := []
  /-- The media types that the caller takes. -/
  consumes : List String := []
  returns : ReturnShape := .value
deriving DecidableEq

/-- The text of the Accept header of a call. -/
def Call.acceptText (call : Call) : String :=
  if call.consumes.isEmpty then "application/json" else joinStrings ", " call.consumes

end HttpCalls
