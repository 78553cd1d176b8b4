-- The JSON codec of a client and its four toggles. A client enables and disables
-- features in any order; a disabled feature is off, whatever else was asked for.
import HttpCalls.Json.Reader
import HttpCalls.Json.Writer

namespace HttpCalls

/-! ## Features -/

/-- What can be asked of the writing of bodies. -/
inductive WriteFeature
  /-- Bodies are written with indentation. -/
  | indentOutput
  /-- The null entries of mapping bodies are written. -/
  | writeNullMapValues
deriving DecidableEq, Repr

/-- What can be asked of the reading of bodies. -/
inductive ReadFeature
  /-- An array of one item is read as that item. -/
  | unwrapSingleValueArrays
  /-- An empty body is refused. -/
  | failOnEmptyBody
deriving DecidableEq, Repr

/-- The features that a client enables and disables. -/
structure Features where
  enabledWriting : List WriteFeature := []
  enabledReading : List ReadFeature := []
  disabledWriting : List WriteFeature := []
  disabledReading : List ReadFeature := []
deriving DecidableEq, Repr

namespace Features

/-- Whether nothing is asked for. -/
def isEmpty (f : Features) : Bool :=
  f.enabledWriting.isEmpty && f.enabledReading.isEmpty &&
    f.disabledWriting.isEmpty && f.disabledReading.isEmpty

/-- One more feature of writing that is enabled. -/
def enableWriting (f : Features) (x : WriteFeature) : Features :=
  { f with enabledWriting := f.enabledWriting ++ [x] }

/-- One more feature of writing that is disabled. -/
def disableWriting (f : Features) (x : WriteFeature) : Features :=
  { f with disabledWriting := f.disabledWriting ++ [x] }

/-- One more feature of reading that is enabled. -/
def enableReading (f : Features) (x : ReadFeature) : Features :=
  { f with enabledReading := f.enabledReading ++ [x] }

/-- One more feature of reading that is disabled. -/
def disableReading (f : Features) (x : ReadFeature) : Features :=
  { f with disabledReading := f.disabledReading ++ [x] }

end Features

/-! ## The codec -/

/-- How bodies are written and read. -/
structure Codec where
  indentOutput : Bool := false
  writeNullMapValues : Bool := true
  unwrapSingleValueArrays : Bool := false
  failOnEmptyBody : Bool := false
deriving DecidableEq, Repr

namespace Codec

/-- The codec with one feature of writing turned on or off. -/
def setWriting (on : Bool) (codec : Codec) : WriteFeature → Codec
  | .indentOutput => { codec with indentOutput := on }
  | .writeNullMapValues => { codec with writeNullMapValues := on }

/-- The codec with one feature of reading turned on or off. -/
def setReading (on : Bool) (codec : Codec) : ReadFeature → Codec
  | .unwrapSingleValueArrays => { codec with unwrapSingleValueArrays := on }
  | .failOnEmptyBody => { codec with failOnEmptyBody := on }

/-- The codec with a client's features: first the enabled ones, then the disabled ones. -/
def withFeatures (codec : Codec) (f : Features) : Codec :=
  let codec := f.enabledWriting.foldl (setWriting true) codec
  let codec := f.enabledReading.foldl (setReading true) codec
  let codec := f.disabledWriting.foldl (setWriting false) codec
  f.disabledReading.foldl (setReading false) codec

end Codec

/-! ## Bodies -/

/-- The body of a request. -/
inductive RequestBody
  /-- A mapping of names to values. -/
  | fields (entries : Fields)
  /-- Any value. -/
  | object (value : Json)
deriving DecidableEq

/-- Whether the body is the value `null`. -/
def RequestBody.isNull : RequestBody → Bool
  | .object v => v.isNull
  | .fields _ => false

namespace Codec

/-- The value that is written for a body. -/
def written (codec : Codec) : RequestBody → Json
  | .fields entries =>
    .object (if codec.writeNullMapValues then entries else entries.filter (!·.2.isNull))
  | .object v => v

/-- The text of a body. -/
def encodeText (codec : Codec) (body : RequestBody) : List Char :=
  if codec.indentOutput then (codec.written body).indented 0 else (codec.written body).compact

/-- The octets of a body. -/
def encode (codec : Codec) (body : RequestBody) : Bytes := Utf8.encode (codec.encodeText body)

/-- The value that is read from the value of a body. -/
def unwrapped (codec : Codec) : Json → Json
  | .array [v] => if codec.unwrapSingleValueArrays then v else .array [v]
  | v => v

/-- The value of a body; a blank body has none, unless it is refused. -/
def decode (codec : Codec) (body : Bytes) : Except Json.Reader.ParseError (Option Json) :=
  if body.all Blank.isAscii && !codec.failOnEmptyBody then .ok none
  else (Json.parse body).map fun v => some (codec.unwrapped v)

end Codec

end HttpCalls
