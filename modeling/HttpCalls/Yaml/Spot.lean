-- Places in a YAML text. What may stand at a place depends on its column and on what
-- stands before it on its line, so both are kept with the text that is left.
import HttpCalls.Text.Pieces

namespace HttpCalls.Yaml

/-- A place: its line, its column and the text from there on. -/
structure Spot where
  line : Nat := 0
  column : Nat := 0
  rest : List Char

/-- Whether a character is a space or a tab. -/
def isBlank (c : Char) : Bool := c = ' ' || c = '\t'

/-- Whether a text ends here, or starts with a blank or a line end. -/
def startsBlank : List Char → Bool
  | [] => true
  | c :: _ => isBlank c || c = '\n'

/-- The text with all line ends written alike. -/
def plainBreaks : List Char → List Char
  | '\r' :: '\n' :: rest => '\n' :: plainBreaks rest
  | c :: rest => (if c = '\r' || c = '\x85' then '\n' else c) :: plainBreaks rest
  | [] => []

/-- Whether a character may stand in a text at all. -/
def isAllowed (c : Char) : Bool :=
  let n := c.toNat
  n = 0x09 || n = 0x0A || n = 0x0D || (0x20 ≤ n && n ≤ 0x7E) || n = 0x85 || (0xA0 ≤ n && n ≤ 0xFFFD) ||
    0x10000 ≤ n

namespace Spot

/-- The place some characters further on. -/
def move (s : Spot) : Nat → Spot
  | 0 => s
  | n + 1 =>
    match s.rest with
    | [] => s
    | c :: rest =>
      if c = '\n' then move { line := s.line + 1, column := 0, rest } n
      else move { s with column := s.column + 1, rest } n

/-- The place where the text `rest` is left. -/
def movedTo (s : Spot) (rest : List Char) : Spot := s.move (s.rest.length - rest.length)

/-- Whether a line that ends or starts a document is here. -/
def atMarker (s : Spot) : Bool :=
  s.column = 0 &&
    (match s.rest with
     | '-' :: '-' :: '-' :: rest => startsBlank rest
     | '.' :: '.' :: '.' :: rest => startsBlank rest
     | _ => false)

/-- Whether the document ends here. -/
def atEnd (s : Spot) : Bool := s.rest.isEmpty || s.atMarker

/-- Whether an entry of a block sequence starts here. -/
def atEntry (s : Spot) : Bool :=
  match s.rest with
  | '-' :: rest => startsBlank rest
  | _ => false

/-- Whether a mark stands here on its own. -/
def atMark (s : Spot) (mark : Char) : Bool :=
  match s.rest with
  | c :: rest => c = mark && startsBlank rest
  | [] => false

end Spot

/-- The place behind blanks, comments and line ends. `fresh` tells whether a mapping may start:
behind a line end it may, and then a tab is no blank. Inside brackets all of this does not count. -/
def skipFrom (brackets fresh comment : Bool) (line column : Nat) : List Char → Spot × Bool
  | [] => ({ line, column, rest := [] }, fresh)
  | c :: rest =>
    if c = '\n' then skipFrom brackets (fresh || !brackets) false (line + 1) 0 rest
    else if comment || c = ' ' || (c = '\t' && (brackets || !fresh)) then
      skipFrom brackets fresh comment line (column + 1) rest
    else if c = '#' then skipFrom brackets fresh true line (column + 1) rest
    else ({ line, column, rest := c :: rest }, fresh)

end HttpCalls.Yaml
