-- Settings from environment variables. The name of a variable is the path to a setting;
-- its value is a literal if it reads as one, else a text.
import HttpCalls.Decimal.Reading
import HttpCalls.Text.Blank
import HttpCalls.Text.Hex
import HttpCalls.Text.Pieces
import HttpCalls.Typed.Datum

namespace HttpCalls.Environment

/-! ## Values -/

/-- Whether a character is an ASCII blank or line end. -/
def isSpace (c : Char) : Bool := " \t\n\x0C\r".toList.contains c

/-- Whether a character may stand in a bare word. -/
def isWordChar (c : Char) : Bool := !",\x7b\x7d[]".toList.contains c

/-- Whether a character may stand in a bare key. -/
def isKeyChar (c : Char) : Bool := c.isAlphanum || c = '_' || c = '-'

/-- A reader of the beginning of a text. -/
abbrev Part (α : Type) := List Char → Option (α × List Char)

/-- The text between quotes with its escapes, and the text behind it. -/
def quotedBody : List Char → Option (List Char × List Char)
  | '"' :: rest => some ([], rest)
  | '\\' :: c :: rest => (quotedBody rest).map fun (body, after) => ('\\' :: c :: body, after)
  | c :: rest => if c = '\\' then none else (quotedBody rest).map fun (body, after) => (c :: body, after)
  | [] => none

/-- The character of a short escape. -/
def shortEscape? (c : Char) : Option Char :=
  [('"', '"'), ('\\', '\\'), ('b', '\x08'), ('f', '\x0C'), ('n', '\n'), ('r', '\r'), ('t', '\t')].lookup c

/-- The text without its escapes. -/
def unescape? : List Char → Option (List Char)
  | [] => some []
  | '\\' :: 'u' :: a :: b :: c :: d :: rest =>
    (Hex.char? [a, b, c, d]).bind fun x => (unescape? rest).map (x :: ·)
  | '\\' :: 'U' :: a :: b :: c :: d :: e :: f :: g :: h :: rest =>
    (Hex.char? [a, b, c, d, e, f, g, h]).bind fun x => (unescape? rest).map (x :: ·)
  | '\\' :: c :: rest => (shortEscape? c).bind fun x => (unescape? rest).map (x :: ·)
  | c :: rest =>
    if c = '\\' || (c.toNat < 0x20 && c ≠ '\t') || c.toNat = 0x7F then none
    else (unescape? rest).map (c :: ·)

/-- Reads a text in quotes. -/
def quoted : Part String
  | '"' :: rest =>
    (quotedBody rest).bind fun (body, after) =>
      (unescape? body).map fun text => (String.ofList text, after)
  | _ => none

/-- A whole number of 64 bits. -/
def whole? (word : List Char) : Option Int :=
  match Decimal.cutSign word with
  | (true, ds) => (Decimal.natural? ds).bind fun n => if n ≤ 2 ^ 63 then some (-(n : Int)) else none
  | (false, ds) => (Decimal.natural? ds).bind fun n => if n < 2 ^ 64 then some (n : Int) else none

/-- What a bare word stands for: a number with a point, a whole number or a text. -/
def wordDatum (word : List Char) : Datum :=
  match (if word.contains '.' then Decimal.real? word else none), whole? word with
  | some x, _ => .real x
  | none, some n => .whole n
  | none, none => .text (String.ofList word)

/-- Reads items up to the mark that closes them, with commas between and perhaps behind. -/
def items {α : Type} (item : Part α) (closing : Char) : (bound : Nat) → Part (List α)
  | 0, _ => none
  | bound + 1, s =>
    if s.head? = some closing then some ([], s.drop 1)
    else
      (item s).bind fun (x, s) =>
        match s with
        | c :: rest =>
          if c = closing then some ([x], rest)
          else if c = ',' then (items item closing bound rest).map fun (xs, s) => (x :: xs, s)
          else none
        | [] => none

/-- Reads a key. -/
def key : Part String
  | '"' :: rest => quoted ('"' :: rest)
  | s =>
    let name := s.takeWhile isKeyChar
    if name.isEmpty then none else some (String.ofList name, s.dropWhile isKeyChar)

/-- Reads a key, an equals sign and a value. -/
def keyValue (value : Part Datum) : Part (String × Datum) := fun s =>
  (key (s.dropWhile isSpace)).bind fun (name, s) =>
    match s.dropWhile isSpace with
    | '=' :: rest => (value rest).map fun (v, s) => ((name, v), s)
    | _ => none

/-- Reads a literal that starts here. -/
def literal (value : Part Datum) : Part Datum
  | '[' :: rest => (items value ']' (rest.length + 1) rest).map fun (vs, s) => (.list vs, s)
  | '\x7b' :: rest =>
    (items (keyValue value) '\x7d' (rest.length + 1) rest).map fun (es, s) => (.sortedTable es, s)
  | '"' :: rest => (quoted ('"' :: rest)).map fun (text, s) => (.text text, s)
  | '\'' :: c :: '\'' :: rest => some (.text (String.ofList [c]), rest)
  | '\'' :: _ => none
  | s =>
    match Text.dropStart? "true".toList s, Text.dropStart? "false".toList s with
    | some rest, _ => some (.bool true, rest)
    | none, some rest => some (.bool false, rest)
    | none, none => some (wordDatum (Blank.trim (s.takeWhile isWordChar)), s.dropWhile isWordChar)

/-- Reads a value with the blanks around it; lists go at most `depth` levels deep. -/
def value : (depth : Nat) → Part Datum
  | 0, _ => none
  | depth + 1, s =>
    (literal (value depth) (s.dropWhile isSpace)).map fun (v, s) => (v, s.dropWhile isSpace)

/-- What the value of a variable stands for: a text as it is, if it does not read as a whole. -/
def datumOf (text : String) : Datum :=
  match value (text.length + 1) text.toList with
  | some (v, []) => v
  | _ => .text text

/-! ## Names -/

/-- The beginning of the names that count. -/
def beginning : List Char := "http_dispatch__".toList

/-- The text with a point in the place of each double underline. -/
def pointed : List Char → List Char
  | '_' :: '_' :: rest => '.' :: pointed rest
  | c :: rest => c :: pointed rest
  | [] => []

/-- The path that the name of a variable is, if it counts; case does not. -/
def path? (name : String) : Option (List String) :=
  (Text.dropStart? beginning ((Blank.trim name.toList).map Char.toLower)).bind fun rest =>
    let steps := Text.pieces '.' (Blank.trim (pointed rest))
    if steps.any (·.isEmpty) then none else some (steps.map String.ofList)

/-- The table with a value at the end of a path. -/
def nested (v : Datum) : List String → Datum
  | [] => v
  | step :: more => .table [(step, nested v more)]

/-- The settings that variables make, one after the other. -/
def settings (environment : List (String × String)) : List Datum :=
  environment.filterMap fun (name, text) => (path? name).map (nested (datumOf text))

end HttpCalls.Environment
