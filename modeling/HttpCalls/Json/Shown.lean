-- JSON values as they are shown to a programmer: each value under the name of its
-- kind, with its texts in quotes.
import HttpCalls.Json.Basic
import HttpCalls.Text.Quoted

namespace HttpCalls.Json

mutual

/-- The shown form of a value. -/
def shown : Json → String
  | .null => "Null"
  | .bool b => "Bool(" ++ toString b ++ ")"
  | .number n => "Number(" ++ String.ofList n.text ++ ")"
  | .string s => "String(" ++ Quoted.ofString s ++ ")"
  | .array items => "Array [" ++ shownItems items ++ "]"
  | .object fields => "Object \x7b" ++ shownFields fields ++ "\x7d"

/-- The shown forms of items, with commas between. -/
def shownItems : List Json → String
  | [] => ""
  | [v] => v.shown
  | v :: more => v.shown ++ ", " ++ shownItems more

/-- The shown forms of entries, with commas between. -/
def shownFields : List (String × Json) → String
  | [] => ""
  | [(name, v)] => Quoted.ofString name ++ ": " ++ v.shown
  | (name, v) :: more => Quoted.ofString name ++ ": " ++ v.shown ++ ", " ++ shownFields more

end

end HttpCalls.Json
