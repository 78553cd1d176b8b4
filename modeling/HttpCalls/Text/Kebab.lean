-- Kebab case: the words of a name in lower case with hyphens between. A word ends
-- at a character that is no letter or number, between a lower-case letter and a
-- capital, and before the last capital of a row that a lower-case letter follows.
import HttpCalls.Text.Letters
import HttpCalls.Text.Pieces

namespace HttpCalls.Kebab

/-- The case of the last cased letter of the word so far. -/
inductive Mode
  | start | lower | upper
deriving DecidableEq, Repr

/-- The mode after one more character. -/
def Mode.after (mode : Mode) (c : Char) : Mode :=
  if Letters.isLowercase c then .lower else if Letters.isUppercase c then .upper else mode

/-- The words of a piece without separators; `word` is the reverse of the word so far. -/
def wordsFrom (mode : Mode) (word : List Char) : List Char → List (List Char)
  | [] => []
  | [c] => [(c :: word).reverse]
  | c :: next :: rest =>
    if mode.after c = .lower && Letters.isUppercase next then
      (c :: word).reverse :: wordsFrom .start [] (next :: rest)
    else if mode = .upper && Letters.isUppercase c && Letters.isLowercase next then
      word.reverse :: wordsFrom .start [c] (next :: rest)
    else wordsFrom (mode.after c) (c :: word) (next :: rest)

/-- The pieces between characters that are no letters or numbers. -/
def split : List Char → List (List Char)
  | [] => [[]]
  | c :: rest =>
    if !Letters.isAlphanumeric c then [] :: split rest
    else
      match split rest with
      | [] => [[c]]
      | piece :: more => (c :: piece) :: more

/-- The lower-case form of a word; a final sigma has a form of its own. -/
def lowerWord : List Char → List Char
  | [] => []
  | ['Σ'] => ['ς']
  | c :: rest => Letters.lower c ++ lowerWord rest

/-- A name in kebab case. -/
def ofText (name : List Char) : List Char :=
  Text.joined ['-'] (((split name).flatMap (wordsFrom .start [])).map lowerWord)

end HttpCalls.Kebab
