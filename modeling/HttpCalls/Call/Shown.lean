-- Calls and their results as they are shown to a programmer.
import HttpCalls.Call.Reply
import HttpCalls.Json.Shown

namespace HttpCalls

/-- Parts in a row, with commas between. -/
def shownList (parts : List String) : String := joinStrings ", " parts

/-- A record with its fields. -/
def shownRecord (name : String) (fields : List (String × String)) : String :=
  name ++ " \x7b " ++ shownList (fields.map fun (field, text) => field ++ ": " ++ text) ++ " \x7d"

/-- A record some of whose fields are not shown. -/
def shownPartly (name : String) (fields : List (String × String)) : String :=
  name ++ " \x7b " ++ shownList (fields.map (fun (field, text) => field ++ ": " ++ text) ++ [".."])
    ++ " \x7d"

/-- The shown form of an operation. -/
def OperationKey.shown (key : OperationKey) : String :=
  shownRecord "OperationKey"
    [("declaring_type", Quoted.ofString key.declaringType), ("name", Quoted.ofString key.name),
     ("argument_types", "[" ++ shownList (key.argumentTypes.map Quoted.ofString) ++ "]")]

/-! ## Responses -/

/-- Two hexadecimal digits. -/
def shownHex (octet : Nat) : List Char := [Nat.digitChar (octet / 16), Nat.digitChar (octet % 16)]

/-- The shown form of one octet of a body. -/
def shownOctet (octet : UInt8) : List Char :=
  let c := Char.ofNat octet.toNat
  if c = '\n' then ['\\', 'n']
  else if c = '\r' then ['\\', 'r']
  else if c = '\t' then ['\\', 't']
  else if c = '\\' || c = '"' then ['\\', c]
  else if c = '\x00' then ['\\', '0']
  else if 0x20 ≤ octet && octet < 0x7F then [c]
  else '\\' :: 'x' :: shownHex octet.toNat

/-- The shown form of the octets of a header value: what is not visible is a number. -/
def shownHeaderOctet (octet : UInt8) : List Char :=
  if octet = 0x22 then ['\\', '"']
  else if (0x20 ≤ octet && octet < 0x7F) || octet = 0x09 then [Char.ofNat octet.toNat]
  else '\\' :: 'x' :: Nat.toDigits 16 octet.toNat

/-- The shown form of a header value. -/
def HeaderValue.shown (v : HeaderValue) : String :=
  "\"" ++ String.ofList ((Utf8.encode v.text).flatMap shownHeaderOctet) ++ "\""

/-- The shown form of headers: the values of one name stand together. -/
def Headers.shown (headers : Headers) : String :=
  let entry (name : HeaderName) (v : HeaderValue) : String :=
    Quoted.ofString (String.ofList name.text) ++ ": " ++ v.shown
  let names := List.eraseDups (List.map Prod.fst headers)
  "\x7b" ++ shownList (names.flatMap fun name => (headers.values name).map (entry name)) ++ "\x7d"

/-- The shown form of a response. -/
def Response.shown (r : Response) : String :=
  shownRecord "HttpResponse"
    [("status", toString r.status.code), ("headers", r.headers.shown),
     ("body", "b\"" ++ String.ofList (r.body.flatMap shownOctet) ++ "\"")]

/-! ## Outcomes -/

/-- The shown form of an outcome. -/
def Outcome.shown {φ σ : Type} : Outcome φ σ → String
  | .value v => "Value(" ++ v.shown ++ ")"
  | .optional none => "Optional(None)"
  | .optional (some v) => "Optional(Some(" ++ v.shown ++ "))"
  | .response r => "Response(" ++ r.shown ++ ")"
  | .unit => "Unit"
  | .future _ => "Future(..)"
  | .stream _ => "Stream(..)"
  | .proceed call => "Proceed(" ++ call.operation.shown ++ ")"

end HttpCalls
