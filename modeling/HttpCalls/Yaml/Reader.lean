-- Reading one YAML document. In blocks the columns tell what belongs together; inside
-- brackets they do not count. The key of an entry is found by the colon behind it, on
-- its own line.
import HttpCalls.Yaml.Node
import HttpCalls.Yaml.Scalar

namespace HttpCalls.Yaml

/-- The beginnings of tags and what they stand for. -/
abbrev Handles := List (List Char × List Char)

/-- The handles that every document has. -/
def standardHandles : Handles := [(['!'], ['!']), (['!', '!'], coreTag.toList)]

/-- The state of a reader. -/
structure State where
  spot : Spot
  /-- Whether a mapping may start here. -/
  fresh : Bool := true
  /-- The nodes that have a name. -/
  anchors : List (String × Node) := []
  handles : Handles := standardHandles

/-- One step of a reader. -/
abbrev Step (α : Type) := State → Option (α × State)

/-- Where a node stands. -/
inductive Place
  /-- Inside brackets. -/
  | brackets (least : Nat)
  /-- In a block, at the column `least` or behind it; entries of a sequence may also stand at `dash`. -/
  | block (least : Nat) (dash : Option Nat)

/-- The column that further lines of a scalar need. -/
def Place.least : Place → Nat
  | .brackets least => least
  | .block least _ => least

/-- Whether a place is inside brackets. -/
def Place.inBrackets : Place → Bool
  | .brackets _ => true
  | .block _ _ => false

namespace State

/-- The state behind blanks, comments and line ends. -/
def skip (brackets : Bool) (s : State) : State :=
  let (spot, fresh) := skipFrom brackets s.fresh false s.spot.line s.spot.column s.spot.rest
  { s with spot, fresh }

/-- The state some characters further on. -/
def move (n : Nat) (fresh : Bool) (s : State) : State := { s with spot := s.spot.move n, fresh }

/-- The state at another place. -/
def at_ (spot : Spot) (fresh : Bool) (s : State) : State := { s with spot, fresh }

end State

/-! ## Names and tags -/

/-- Whether a character may stand in a name. -/
def isNameChar (c : Char) : Bool := c.isAlphanum || c = '_' || c = '-'

/-- The name of an anchor, and the text behind it. -/
def anchorName? (rest : List Char) : Option (String × List Char) :=
  let name := rest.takeWhile isNameChar
  let after := rest.dropWhile isNameChar
  let ends := startsBlank after || after.head?.any "?:,]\x7d%@`".toList.contains
  if name.isEmpty || !ends then none else some (String.ofList name, after)

/-- Whether a character may stand in a tag. -/
def isTagChar (c : Char) : Bool := c.isAlphanum || "_-;/?:@&=+$.!~*'()%".toList.contains c

/-- The handle of a tag behind its first mark, and what follows the handle. -/
def cutHandle (body : List Char) : List Char × List Char :=
  match body.dropWhile isNameChar with
  | '!' :: rest => ('!' :: body.takeWhile isNameChar ++ ['!'], rest)
  | _ => (['!'], body)

/-- The full form of a tag behind its first mark. -/
def tagText? (handles : Handles) (body : List Char) : Option String :=
  if body.isEmpty then some "!"
  else
    let (handle, rest) := cutHandle body
    if rest.isEmpty then none
    else (handles.lookup handle).map fun start => String.ofList (start ++ rest)

/-- A tag behind its first mark, and the text behind it. -/
def tag? (handles : Handles) (brackets : Bool) (rest : List Char) : Option (String × List Char) :=
  let ends (after : List Char) : Bool := startsBlank after || (brackets && after.head? = some ',')
  match rest with
  | '<' :: more =>
    let body := more.takeWhile (· ≠ '>')
    match more.drop body.length with
    | '>' :: after => if body.isEmpty || !ends after then none else some (String.ofList body, after)
    | _ => none
  | _ =>
    let body := rest.takeWhile isTagChar
    let after := rest.drop body.length
    if ends after then (tagText? handles body).map (·, after) else none

/-- What is said of a node in front of it. -/
structure Props where
  anchor : Option String := none
  tag : Option String := none

/-- Whether nothing is said. -/
def Props.isEmpty (p : Props) : Bool := p.anchor.isNone && p.tag.isNone

/-- Reads an anchor and a tag in any order, as long as they stand on one line. -/
def props (brackets : Bool) (p : Props) : (bound : Nat) → Step Props
  | 0, s => some (p, s)
  | bound + 1, s =>
    let next (rest : List Char) : State :=
      let behind := s.at_ (s.spot.movedTo rest) false
      let skipped := behind.skip brackets
      if skipped.spot.line = s.spot.line then { skipped with fresh := false } else behind
    match s.spot.rest with
    | '&' :: rest =>
      if p.anchor.isSome then none
      else
        (anchorName? rest).bind fun (name, rest) =>
          props brackets { p with anchor := some name } bound (next rest)
    | '!' :: rest =>
      if p.tag.isSome then none
      else
        (tag? s.handles brackets rest).bind fun (tag, rest) =>
          props brackets { p with tag := some tag } bound (next rest)
    | _ => some (p, s)

/-- A node with what is said of it; its name is kept. -/
def named (p : Props) (node : Node) (s : State) : Node × State :=
  let node := node.withTag p.tag
  match p.anchor with
  | some name => (node, { s with anchors := (name, node) :: s.anchors })
  | none => (node, s)

/-! ## Inside brackets -/

/-- The value behind the key of an entry in brackets: what follows a colon, or nothing. -/
def bracketValue (nested : Place → Step Node) (least : Nat) (s : State) : Option (Node × State) :=
  let s := (s.move 1 false).skip true
  match s.spot.rest with
  | ',' :: _ | ']' :: _ | '}' :: _ => some (.empty, s)
  | _ => nested (.brackets least) s

/-- Whether a colon behind a node makes it the key of an entry: on one line, and not too far on. -/
def isKey (start behind : State) : Bool :=
  start.fresh && start.spot.line = behind.spot.line && behind.spot.column ≤ start.spot.column + 1024 &&
    behind.spot.rest.head? = some ':'

/-- Reads a key in brackets, and its value if it has one. -/
def bracketEntry (nested : Place → Step Node) (least : Nat) (s : State) :
    Option ((Node × Option Node) × State) :=
  match s.spot.rest with
  | '?' :: _ => do
    let start := (s.move 1 true).skip true
    let (key, behind) ←
      match start.spot.rest with
      | ':' :: _ | ',' :: _ | ']' :: _ | '}' :: _ => some (Node.empty, start)
      | _ => nested (.brackets least) start
    let behind := behind.skip true
    if behind.spot.rest.head? = some ':' then
      let (value, after) ← bracketValue nested least behind
      return ((key, some value), after)
    else return ((key, some .empty), behind)
  | _ => do
    let (key, behind) ← nested (.brackets least) s
    let behind := behind.skip true
    if isKey s behind then
      let (value, after) ← bracketValue nested least behind
      return ((key, some value), after)
    else return ((key, none), behind)

/-- Reads entries in brackets up to the bracket that closes them. -/
def bracketEntries (nested : Place → Step Node) (least : Nat) (closing : Char) (first : Bool) :
    (bound : Nat) → Step (List (Node × Option Node))
  | 0, _ => none
  | bound + 1, s => do
    let s := s.skip true
    if s.spot.atEnd then none
    else if s.spot.rest.head? = some closing then return ([], s.move 1 false)
    else
      let s ←
        if first then some { s with fresh := true }
        else if s.spot.rest.head? = some ',' then some ((s.move 1 true).skip true)
        else none
      if s.spot.rest.head? = some closing && !first then return ([], s.move 1 false)
      else
        let (entry, s) ← bracketEntry nested least s
        let (more, s) ← bracketEntries nested least closing false bound s
        return (entry :: more, s)

/-- The item that an entry in square brackets is: a mapping of its own if it has a value. -/
def itemOf : Node × Option Node → Node
  | (node, none) => node
  | (key, some value) => .mapping [(key, value)] none

/-- The entry that an entry in braces is. -/
def entryOf : Node × Option Node → Node × Node
  | (key, value) => (key, value.getD .empty)

/-! ## Nodes without properties -/

/-- Reads a quoted scalar behind its first quote. -/
def quoted (read : Gap → List Char → Option (List Char × List Char)) (s : State) : Option (Node × State) :=
  (read {} (s.spot.rest.drop 1)).map fun (text, rest) =>
    (.scalar text false none, s.at_ (s.spot.movedTo rest) false)

/-- Reads a block behind its mark. -/
def block (folds : Bool) (least : Nat) (s : State) : Option (Node × State) :=
  (block? folds least (s.spot.rest.drop 1)).map fun (text, rest) =>
    (.scalar text false none, s.at_ (s.spot.movedTo rest) true)

/-- Reads a scalar, an alias or a collection in brackets. -/
def atom (nested : Place → Step Node) (place : Place) (s : State) : Option (Node × State) :=
  match s.spot.rest with
  | '*' :: rest =>
    (anchorName? rest).bind fun (name, rest) =>
      (s.anchors.lookup name).map fun node => (node, s.at_ (s.spot.movedTo rest) false)
  | '"' :: _ => quoted doubleQuoted s
  | '\'' :: _ => quoted singleQuoted s
  | '[' :: _ =>
    (bracketEntries nested place.least ']' true (s.spot.rest.length + 1) (s.move 1 true)).map
      fun (entries, s) => (.sequence (entries.map itemOf) none, s)
  | '{' :: _ =>
    (bracketEntries nested place.least '}' true (s.spot.rest.length + 1) (s.move 1 true)).map
      fun (entries, s) => (.mapping (entries.map entryOf) none, s)
  | c :: _ =>
    if (c = '|' || c = '>') && !place.inBrackets then block (c = '>') place.least s
    else if startsPlain place.inBrackets s.spot.rest then
      (plain? place.inBrackets place.least s.spot).map fun (text, spot) =>
        (.scalar text true none, s.at_ spot false)
    else none
  | [] => none

/-- Reads a node with its properties, all on one line in front of it. -/
def atomWithProps (nested : Place → Step Node) (place : Place) (s : State) : Option (Node × State) := do
  let (p, behind) ← props place.inBrackets {} 2 s
  if !p.isEmpty && behind.spot.rest.head? = some '*' then none
  else
    let (node, after) ← atom nested place behind
    return named p node after

/-- Reads a node inside brackets. -/
def bracketNode (nested : Place → Step Node) (least : Nat) (s : State) : Option (Node × State) := do
  let s := s.skip true
  let (p, behind) ← props true {} 2 s
  let behind := behind.skip true
  match behind.spot.rest with
  | ',' :: _ | ']' :: _ | '}' :: _ | ':' :: _ =>
    if p.isEmpty then none else return named p .empty behind
  | _ =>
    if !p.isEmpty && behind.spot.rest.head? = some '*' then none
    else
      let (node, after) ← atom nested (.brackets least) behind
      return named p node after

/-! ## Blocks -/

/-- Reads the entries of a sequence whose dashes stand at a column; `loose` tells whether it
ends where a mapping goes on at the same column. -/
def sequenceEntries (nested : Place → Step Node) (column : Nat) (loose : Bool) :
    (bound : Nat) → Step (List Node)
  | 0, _ => none
  | bound + 1, s => do
    let (item, s) ← nested (.block (column + 1) none) (s.move 1 true)
    let s := s.skip false
    if s.spot.atEnd || s.spot.column < column then return ([item], s)
    else if column < s.spot.column then none
    else if s.spot.atEntry then
      let (more, s) ← sequenceEntries nested column loose bound s
      return (item :: more, s)
    else if loose then return ([item], s)
    else none

/-- Reads the value behind the colon of an entry. -/
def entryValue (nested : Place → Step Node) (column : Nat) (fresh : Bool) (s : State) : Option (Node × State) :=
  nested (.block (column + 1) (some column)) (s.move 1 fresh)

/-- Reads an entry of a mapping at its column. -/
def mappingEntry (nested : Place → Step Node) (column : Nat) (s : State) :
    Option ((Node × Node) × State) :=
  if s.spot.atMark '?' then do
    let (key, behind) ← entryValue nested column true s
    let behind := behind.skip false
    if behind.fresh && behind.spot.column = column && !behind.spot.atEnd && behind.spot.atMark ':' then
      let (value, after) ← entryValue nested column true behind
      return ((key, value), after)
    else return ((key, .empty), behind)
  else if s.spot.atMark ':' then do
    let (value, after) ← entryValue nested column true s
    return ((.empty, value), after)
  else if s.spot.atEntry then none
  else do
    let (key, behind) ← atomWithProps nested (.block (column + 1) none) s
    let behind := behind.skip false
    if isKey s behind && behind.spot.atMark ':' then
      let (value, after) ← entryValue nested column false behind
      return ((key, value), after)
    else none

/-- Reads further entries of a mapping at a column. -/
def mappingEntries (nested : Place → Step Node) (column : Nat) : (bound : Nat) → Step (List (Node × Node))
  | 0, _ => none
  | bound + 1, s => do
    let s := s.skip false
    if s.spot.atEnd || s.spot.column < column then return ([], s)
    else if column < s.spot.column || !s.fresh then none
    else
      let (entry, s) ← mappingEntry nested column s
      let (more, s) ← mappingEntries nested column bound s
      return (entry :: more, s)

/-- Reads a mapping whose first entry starts here. -/
def mapping (nested : Place → Step Node) (s : State) : Option (Node × State) := do
  let column := s.spot.column
  let (first, after) ← mappingEntry nested column s
  let (more, after) ← mappingEntries nested column (s.spot.rest.length + 1) after
  return (.mapping (first :: more) none, after)

/-- Reads a sequence whose first entry starts here. -/
def sequence (nested : Place → Step Node) (loose : Bool) (s : State) : Option (Node × State) :=
  (sequenceEntries nested s.spot.column loose (s.spot.rest.length + 1) s).map
    fun (items, after) => (.sequence items none, after)

/-- Reads a scalar or the mapping whose first key it is, or a node whose properties stand on a
line of their own. -/
def leaf (nested : Place → Step Node) (least : Nat) (dash : Option Nat) (s : State) :
    Option (Node × State) := do
  let (p, behind) ← props false {} 2 s
  let next := behind.skip false
  if !p.isEmpty && (next.spot.line ≠ s.spot.line || next.spot.atEnd) then
    let (node, after) ← nested (.block least dash) behind
    return named p node after
  else
    let (node, after) ← atomWithProps nested (.block least none) s
    let colon := after.skip false
    if isKey s colon && colon.spot.atMark ':' then mapping nested s
    else return (node, after)

/-- Reads a node in a block. -/
def blockNode (nested : Place → Step Node) (least : Nat) (dash : Option Nat) (s : State) :
    Option (Node × State) :=
  let s := s.skip false
  let spot := s.spot
  if spot.atEnd || spot.column < least then
    if !spot.atEnd && s.fresh && dash = some spot.column && spot.atEntry then sequence nested true s
    else some (.empty, s)
  else if spot.atEntry then if s.fresh then sequence nested false s else none
  else if spot.atMark '?' || spot.atMark ':' then if s.fresh then mapping nested s else none
  else leaf nested least dash s

/-- Reads a node; collections and properties go at most `depth` levels deep. -/
def node : (depth : Nat) → Place → Step Node
  | 0, _, _ => none
  | depth + 1, .brackets least, s => bracketNode (node depth) least s
  | depth + 1, .block least dash, s => blockNode (node depth) least dash s

/-! ## Documents -/

/-- What the lines in front of a document say. -/
structure Directives where
  versioned : Bool := false
  handles : Handles := []

/-- Whether there are any. -/
def Directives.any (d : Directives) : Bool := d.versioned || !d.handles.isEmpty

/-- Whether a version is one of those that can be read. -/
def isVersion (text : List Char) : Bool :=
  match Text.cut? '.' text with
  | some (major, minor) =>
    inBase? 10 major = some 1 && (inBase? 10 minor = some 1 || inBase? 10 minor = some 2)
  | none => false

/-- Whether a text may be a handle. -/
def isHandle (text : List Char) : Bool :=
  text = ['!'] || (cutHandle (text.drop 1) = (text, []) && text.head? = some '!')

/-- Adds what one line says. -/
def Directives.add? (d : Directives) (line : List Char) : Option Directives :=
  let words := (Text.pieces ' ' (line.map fun c => if c = '\t' then ' ' else c)).filter (!·.isEmpty)
  match words.takeWhile (·.head? ≠ some '#') with
  | [name, version] =>
    if name = "%YAML".toList && isVersion version && !d.versioned then some { d with versioned := true }
    else none
  | [name, handle, start] =>
    if name = "%TAG".toList && isHandle handle && (d.handles.lookup handle).isNone then
      some { d with handles := d.handles ++ [(handle, start)] }
    else none
  | _ => none

/-- Reads the directives in front of a document. -/
def directives (d : Directives) : (bound : Nat) → Step Directives
  | 0, _ => none
  | bound + 1, s =>
    let s := s.skip false
    if s.spot.column = 0 && s.spot.rest.head? = some '%' then
      let line := s.spot.rest.takeWhile (· ≠ '\n')
      (d.add? line).bind fun d => directives d bound { s with spot := s.spot.move line.length }
    else some (d, s)

/-- Reads what may stand in front of a document: directives, and the line that starts it. -/
def opening? (s : State) : Option State := do
  let (d, s) ← directives {} (s.spot.rest.length + 1) s
  let s := { s with handles := d.handles ++ standardHandles }
  if s.spot.atMarker && s.spot.rest.head? = some '-' then return s.move 3 false
  else if d.any then none
  else return s

/-- Whether nothing but the end of the document is left. -/
def isFinished (s : State) : Bool :=
  let s := s.skip false
  s.spot.rest.isEmpty ||
    (s.spot.atMarker && s.spot.rest.head? = some '.' && ((s.move 3 false).skip false).spot.rest.isEmpty)

/-- The levels that the values of a document may have. -/
def maxDepth : Nat := 127

/-- Reads the only document of a text; a text without one has no node. -/
def document? (text : List Char) : Option (Option Node) :=
  let text := if text.head? = some '\uFEFF' then text.drop 1 else text
  if !text.all isAllowed then none
  else
    let start : State := { spot := { rest := plainBreaks text } }
    if isFinished start then some none
    else do
      let s ← opening? start
      let (root, s) ← node (s.spot.rest.length + 2) (.block 0 none) s
      if isFinished s then return some root else none

/-- Reads the table that a text is; an empty text is an empty table. -/
def table? (text : String) : Option Datum :=
  (document? text.toList).bind fun root =>
    match root with
    | none => some (.table [])
    | some root => root.table? maxDepth

end HttpCalls.Yaml
