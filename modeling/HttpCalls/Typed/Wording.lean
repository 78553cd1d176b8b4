-- Misfits in words. The readers of JSON and the readers of settings report the same
-- misfits in words of their own.
import HttpCalls.Text.Quoted
import HttpCalls.Typed.Reading

namespace HttpCalls

/-- A text between backquotes. -/
def backquoted (s : String) : String := "`" ++ s ++ "`"

/-- Two alternatives, or a list of them, between backquotes. -/
def alternatives : List String → String
  | [] => "there are no variants"
  | [a] => backquoted a
  | [a, b] => backquoted a ++ " or " ++ backquoted b
  | names => "one of " ++ ", ".intercalate (names.map backquoted)

/-- A whole number of more than 64 bits, with the name of its type. -/
def wideText (n : Int) : String :=
  "integer " ++ backquoted (toString n) ++ " as " ++ if n < 0 then "i128" else "u128"

/-! ## In JSON -/

/-- What was found, in the words of a reader of JSON. -/
def Found.inJson : Found → String
  | .unit => "null"
  | .bool b => "boolean " ++ backquoted (toString b)
  | .natural n => "integer " ++ backquoted (toString n)
  | .negative n => "integer " ++ backquoted (toString n)
  | .wide n => wideText n
  | .real x => "floating point " ++ backquoted (String.ofList (Decimal.jsonText x))
  | .text s => "string " ++ Quoted.ofString s
  | .list => "sequence"
  | .table => "map"

/-- What was wanted, apart from the words for a choice. -/
def Wanted.common : Wanted → String
  | .text => "a string"
  | .bool => "a boolean"
  | .list => "a sequence"
  | .table => "a map"
  | .unit => "unit"
  | .whole name => name
  | .record name => "struct " ++ name
  | .choice name => "enum " ++ name
  | .anyChoice => "enum"
  | .singleEntry => "map with a single key"
  | .fewerItems => "fewer elements in array"

/-- What was wanted, in the words of a reader of JSON. -/
def Wanted.inJson : Wanted → String
  | .choice _ => "string or map"
  | w => w.common

/-- The misfit in the words of a reader of JSON. -/
def Misfit.inJson : Misfit → String
  | .type found wanted => "invalid type: " ++ found.inJson ++ ", expected " ++ wanted.inJson
  | .value found wanted => "invalid value: " ++ found.inJson ++ ", expected " ++ wanted.inJson
  | .length count wanted => "invalid length " ++ toString count ++ ", expected " ++ wanted.inJson
  | .variant name known => "unknown variant " ++ backquoted name ++ ", expected " ++ alternatives known
  | .custom message => message

/-! ## In settings -/

/-- What was found, in the words of a reader of settings. -/
def Found.inSettings : Found → String
  | .unit => "unit"
  | .bool b => "bool " ++ toString b
  | .natural n => "unsigned int " ++ backquoted (toString n)
  | .negative n => "signed int " ++ backquoted (toString n)
  | .wide n => wideText n
  | .real x => "float " ++ backquoted (String.ofList (Decimal.plainText x))
  | .text s => "string " ++ Quoted.ofString s
  | .list => "sequence"
  | .table => "map"

/-- The misfit in the words of a reader of settings. -/
def Misfit.inSettings : Misfit → String
  | .type found wanted => "invalid type: found " ++ found.inSettings ++ ", expected " ++ wanted.common
  | .value found wanted => "invalid value " ++ found.inSettings ++ ", expected " ++ wanted.common
  | .length count wanted => "invalid length " ++ toString count ++ ", expected " ++ wanted.common
  | .variant name known =>
    "unknown variant: found " ++ backquoted name ++ ", expected " ++ backquoted (alternatives known)
  | .custom message => message

end HttpCalls
