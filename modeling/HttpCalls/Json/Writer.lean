-- Writing JSON values: without any blank space, or with two spaces a level.
import HttpCalls.Json.Basic
import HttpCalls.Text.Hex
import HttpCalls.Text.Utf8

namespace HttpCalls.Json

/-! ## Strings -/

/-- A character inside a string: quotes, backslashes and control characters are escaped. -/
def writeChar (c : Char) : List Char :=
  match c with
  | '"' => ['\\', '"']
  | '\\' => ['\\', '\\']
  | '\x08' => ['\\', 'b']
  | '\x0c' => ['\\', 'f']
  | '\n' => ['\\', 'n']
  | '\r' => ['\\', 'r']
  | '\t' => ['\\', 't']
  | c =>
    if c.toNat < 0x20 then ['\\', 'u', '0', '0', Hex.lower (c.toNat / 16), Hex.lower (c.toNat % 16)]
    else [c]

/-- A text in quotes. -/
def writeString (text : List Char) : List Char := '"' :: text.flatMap writeChar ++ ['"']

/-! ## Without blank space -/

mutual

/-- The compact text of a value. -/
def compact : Json → List Char
  | .null => "null".toList
  | .bool true => "true".toList
  | .bool false => "false".toList
  | .number n => n.text
  | .string s => writeString s.toList
  | .array [] => ['[', ']']
  | .array (x :: xs) => '[' :: compact x ++ compactItems xs
  | .object [] => ['{', '}']
  | .object ((k, v) :: fields) =>
    '{' :: writeString k.toList ++ ':' :: compact v ++ compactFields fields

/-- The further items of an array and its end. -/
def compactItems : List Json → List Char
  | [] => [']']
  | x :: xs => ',' :: compact x ++ compactItems xs

/-- The further entries of an object and its end. -/
def compactFields : List (String × Json) → List Char
  | [] => ['}']
  | (k, v) :: fields => ',' :: writeString k.toList ++ ':' :: compact v ++ compactFields fields

end

/-! ## With indentation -/

/-- A new line with two spaces for each level. -/
def newline (level : Nat) : List Char := '\n' :: List.replicate (2 * level) ' '

mutual

/-- The indented text of a value that stands at a level. -/
def indented (level : Nat) : Json → List Char
  | .null => "null".toList
  | .bool true => "true".toList
  | .bool false => "false".toList
  | .number n => n.text
  | .string s => writeString s.toList
  | .array [] => ['[', ']']
  | .array (x :: xs) =>
    '[' :: newline (level + 1) ++ indented (level + 1) x ++ indentedItems level xs
  | .object [] => ['{', '}']
  | .object ((k, v) :: fields) =>
    '{' :: newline (level + 1) ++ writeString k.toList ++ ':' :: ' ' :: indented (level + 1) v ++
      indentedFields level fields

/-- The further items of an array that stands at a level, and its end. -/
def indentedItems (level : Nat) : List Json → List Char
  | [] => newline level ++ [']']
  | x :: xs => ',' :: newline (level + 1) ++ indented (level + 1) x ++ indentedItems level xs

/-- The further entries of an object that stands at a level, and its end. -/
def indentedFields (level : Nat) : List (String × Json) → List Char
  | [] => newline level ++ ['}']
  | (k, v) :: fields =>
    ',' :: newline (level + 1) ++ writeString k.toList ++ ':' :: ' ' :: indented (level + 1) v ++
      indentedFields level fields

end

/-- The compact text as a string. -/
def text (value : Json) : String := String.ofList (compact value)

end HttpCalls.Json
