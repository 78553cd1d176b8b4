-- Scalars of a YAML text: plain ones, quoted ones and blocks. A line end inside a
-- scalar is a space, and further empty lines are line ends.
import HttpCalls.Text.Hex
import HttpCalls.Yaml.Spot

namespace HttpCalls.Yaml

/-- A text without the blanks at its end. -/
def stripEnd (text : List Char) : List Char := (text.reverse.dropWhile isBlank).reverse

/-- What so many line ends in a row stand for. -/
def folded (breaks : Nat) : List Char := if breaks ≤ 1 then [' '] else List.replicate (breaks - 1) '\n'

/-! ## Plain scalars -/

/-- The characters that mean something at the start of a node. -/
def indicators : List Char := ",[]\x7b\x7d#&*!|>'\"%@`".toList

/-- Whether a plain scalar starts here. -/
def startsPlain (brackets : Bool) : List Char → Bool
  | [] => false
  | c :: rest =>
    if isBlank c || c = '\n' then false
    else if c = '-' then !startsBlank rest
    else if c = '?' || c = ':' then !brackets && !startsBlank rest
    else !indicators.contains c

/-- The part of a line that belongs to a plain scalar, with blanks at its end. -/
def plainPart? (brackets afterBlank : Bool) : List Char → Option (List Char)
  | [] => some []
  | c :: rest =>
    if c = '#' && afterBlank then some []
    else if c = ':' && startsBlank rest then some []
    else if brackets && c = ':' && (rest.head?.any ",?[]\x7b\x7d".toList.contains) then none
    else if brackets && ",[]\x7b\x7d".toList.contains c then some []
    else (plainPart? brackets (isBlank c) rest).map (c :: ·)

/-- Whether a tab stands in the indentation of a line. -/
def tabIndents (least column : Nat) (broken : Bool) : List Char → Bool
  | [] => false
  | c :: rest =>
    if c = '\n' then tabIndents least 0 true rest
    else (broken && c = '\t' && column < least) || tabIndents least (column + 1) broken rest

/-- The lines of a plain scalar behind its first one; `done` is what was read. -/
def plainLines (brackets : Bool) (least : Nat) (done : List Char) (s : Spot) :
    (bound : Nat) → Option (List Char × Spot)
  | 0 => some (done, s)
  | bound + 1 =>
    let gap := s.rest.takeWhile fun c => isBlank c || c = '\n'
    let breaks := gap.count '\n'
    if breaks = 0 then some (done, s)
    else if tabIndents least s.column false gap then none
    else
      let next := s.move gap.length
      if next.atEnd || (!brackets && next.column < least) then some (done, s)
      else
        let line := next.rest.takeWhile (· ≠ '\n')
        (plainPart? brackets true line).bind fun part =>
          if part.isEmpty then some (done, s)
          else
            let text := stripEnd part
            let done := done ++ folded breaks ++ text
            let after := next.move text.length
            if part.length = line.length then plainLines brackets least done after bound
            else some (done, after)

/-- Reads a plain scalar whose further lines start at the column `least` or behind it. -/
def plain? (brackets : Bool) (least : Nat) (s : Spot) : Option (List Char × Spot) :=
  let line := s.rest.takeWhile (· ≠ '\n')
  (plainPart? brackets false line).bind fun part =>
    let text := stripEnd part
    let after := s.move text.length
    if part.length = line.length then plainLines brackets least text after s.rest.length
    else some (text, after)

/-! ## Quoted scalars -/

/-- The blanks and line ends that were read and not yet written. -/
structure Gap where
  blanks : List Char := []
  /-- How many lines ended. -/
  breaks : Option Nat := none
  /-- Whether the first line end was escaped. -/
  escaped : Bool := false

/-- What a gap stands for. -/
def Gap.text (g : Gap) : List Char :=
  match g.breaks with
  | none => g.blanks.reverse
  | some n => if g.escaped then List.replicate n '\n' else folded n

/-- The gap with one more line end. -/
def Gap.withBreak (g : Gap) : Gap := { g with blanks := [], breaks := some (g.breaks.getD 0 + 1) }

/-- The gap with one more blank; blanks at the start of a line do not count. -/
def Gap.withBlank (g : Gap) (c : Char) : Gap :=
  match g.breaks with
  | none => { g with blanks := c :: g.blanks }
  | some _ => g

/-- The character of a short escape. -/
def escape? (c : Char) : Option Char :=
  [('0', '\x00'), ('a', '\x07'), ('b', '\x08'), ('t', '\t'), ('\t', '\t'), ('n', '\n'), ('v', '\x0B'),
   ('f', '\x0C'), ('r', '\r'), ('e', '\x1B'), (' ', ' '), ('"', '"'), ('/', '/'), ('\\', '\\'),
   ('N', '\x85'), ('_', '\u00A0'), ('L', '\u2028'), ('P', '\u2029')].lookup c

/-- The number of digits behind a long escape. -/
def escapeWidth? (c : Char) : Option Nat := [('x', 2), ('u', 4), ('U', 8)].lookup c

/-- An escape behind its backslash: its character and the text behind it. -/
def longEscape? (rest : List Char) : Option (Char × List Char) :=
  match rest with
  | [] => none
  | c :: more =>
    match escape? c, escapeWidth? c with
    | some d, _ => some (d, more)
    | none, some width =>
      if more.length < width then none
      else (Hex.char? (more.take width)).map fun d => (d, more.drop width)
    | none, none => none

theorem longEscape?_lt {rest after : List Char} {c : Char} (h : longEscape? rest = some (c, after)) :
    after.length < rest.length := by
  unfold longEscape? at h
  split at h
  · cases h
  · split at h
    · injection h with h
      injection h with _ h
      subst h
      simp
    · split at h
      · cases h
      · simp only [Option.map_eq_some_iff, Prod.mk.injEq] at h
        obtain ⟨_, _, _, h⟩ := h
        subst h
        simp only [List.length_drop, List.length_cons]
        omega
    · cases h

/-- Whether the next line would end the document. -/
def marksNext (rest : List Char) : Bool := Spot.atMarker { rest }

/-- Reads the rest of a scalar in double quotes, and gives the text behind it. -/
def doubleQuoted (gap : Gap) (s : List Char) : Option (List Char × List Char) :=
  match s with
  | [] => none
  | '"' :: rest => some (gap.text, rest)
  | '\\' :: '\n' :: rest =>
    if marksNext rest then none
    else
      (doubleQuoted { breaks := some 0, escaped := true } rest).map fun (t, after) => (gap.text ++ t, after)
  | '\\' :: rest =>
    match _h : longEscape? rest with
    | none => none
    | some (c, rest) => (doubleQuoted {} rest).map fun (t, after) => (gap.text ++ c :: t, after)
  | c :: rest =>
    if c = '\n' then
      if marksNext rest then none else doubleQuoted gap.withBreak rest
    else if isBlank c then doubleQuoted (gap.withBlank c) rest
    else (doubleQuoted {} rest).map fun (t, after) => (gap.text ++ c :: t, after)
termination_by s.length
decreasing_by
  all_goals simp_wf
  all_goals try have _shorter := longEscape?_lt _h
  all_goals omega

/-- Reads the rest of a scalar in single quotes, where a quote is written twice. -/
def singleQuoted (gap : Gap) : List Char → Option (List Char × List Char)
  | [] => none
  | '\'' :: '\'' :: rest => (singleQuoted {} rest).map fun (t, after) => (gap.text ++ '\'' :: t, after)
  | '\'' :: rest => some (gap.text, rest)
  | c :: rest =>
    if c = '\n' then
      if marksNext rest then none else singleQuoted gap.withBreak rest
    else if isBlank c then singleQuoted (gap.withBlank c) rest
    else (singleQuoted {} rest).map fun (t, after) => (gap.text ++ c :: t, after)

/-! ## Blocks -/

/-- What becomes of the line ends at the end of a block. -/
inductive Chomping
  | strip | clip | keep
deriving DecidableEq, Repr

/-- The head of a block: what becomes of its end, and its indentation if that is given. -/
structure BlockHead where
  chomping : Chomping := .clip
  indent : Option Nat := none

/-- Reads at most two marks of a head. -/
def blockHead? (head : BlockHead) (signed : Bool) : List Char → Option (BlockHead × List Char)
  | c :: rest =>
    if !signed && (c = '+' || c = '-') then
      blockHead? { head with chomping := if c = '+' then .keep else .strip } true rest
    else if c.isDigit && head.indent.isNone then
      if c = '0' then none else blockHead? { head with indent := some (c.toNat - 0x30) } signed rest
    else some (head, c :: rest)
  | [] => some (head, [])

/-- The rest of the line of a head, which may only hold a comment. -/
def headLine? (rest : List Char) : Option (List Char) :=
  let rest := rest.dropWhile isBlank
  match rest with
  | '#' :: _ => some ((rest.dropWhile (· ≠ '\n')).drop 1)
  | '\n' :: more => some more
  | [] => some []
  | _ => none

/-- The spaces at the start of a line. -/
def indentOf (line : List Char) : Nat := (line.takeWhile (· = ' ')).length

/-- The indentation of the lines of a block: that of the first line with text, and at least
`least`; nothing if a tab stands in it. -/
def blockIndent? (least : Nat) : List (List Char) → Option Nat
  | [] => some (max least 1)
  | line :: more =>
    match line.drop (indentOf line) with
    | [] => (blockIndent? least more).map (max (indentOf line))
    | c :: _ => if c = '\t' then none else some (max (indentOf line) (max least 1))

/-- What was read of a block and not yet written. -/
structure BlockState where
  /-- Whether a line with text ended. -/
  broken : Bool := false
  /-- How many empty lines followed. -/
  empties : Nat := 0
  /-- Whether that line started with a blank. -/
  indented : Bool := false

/-- What stands between two lines with text. -/
def BlockState.glue (b : BlockState) (folds : Bool) (line : List Char) : List Char :=
  let indented := line.head?.any isBlank
  if folds && b.broken && !b.indented && !indented then
    if b.empties = 0 then [' '] else List.replicate b.empties '\n'
  else List.replicate (b.empties + if b.broken then 1 else 0) '\n'

/-- What stands at the end of a block. -/
def BlockState.ending (b : BlockState) : Chomping → List Char
  | .strip => []
  | .clip => if b.broken then ['\n'] else []
  | .keep => List.replicate (b.empties + if b.broken then 1 else 0) '\n'

/-- Reads the lines of a block; the last line of a text has no line end. Gives the text of
the block and how many characters it takes. -/
def blockLines (folds : Bool) (chomping : Chomping) (indent : Nat) (b : BlockState) :
    List (List Char) → Option (List Char × Nat)
  | [] => some (b.ending chomping, 0)
  | line :: more =>
    let last := more.isEmpty
    let size := line.length + if last then 0 else 1
    let own := line.drop indent
    if indentOf line < indent then
      match line.drop (indentOf line) with
      | [] =>
        if last then some (b.ending chomping, 0)
        else
          (blockLines folds chomping indent { b with empties := b.empties + 1 } more).map
            fun (t, n) => (t, size + n)
      | c :: _ => if c = '\t' then none else some (b.ending chomping, 0)
    else if own.isEmpty then
      if last then some (b.ending chomping, 0)
      else
        (blockLines folds chomping indent { b with empties := b.empties + 1 } more).map
          fun (t, n) => (t, size + n)
    else
      let state := { broken := !last, empties := 0, indented := own.head?.any isBlank }
      (blockLines folds chomping indent state more).map
        fun (t, n) => (b.glue folds own ++ own ++ t, size + n)

/-- Reads a block behind its mark; its lines are indented by at least `least`. -/
def block? (folds : Bool) (least : Nat) (rest : List Char) : Option (List Char × List Char) :=
  (blockHead? {} false rest).bind fun (head, rest) =>
    (headLine? rest).bind fun rest =>
      let lines := Text.pieces '\n' rest
      let indent :=
        match head.indent with
        | some n => some (if least = 0 then n else least - 1 + n)
        | none => blockIndent? least lines
      indent.bind fun indent =>
        (blockLines folds head.chomping indent {} lines).map fun (t, n) => (t, rest.drop n)

end HttpCalls.Yaml
