-- The URI of an outgoing request. Its text is taken as it stands: a character that
-- should have been escaped makes it illegal. A fragment is left out unread.
import HttpCalls.Text.Pieces

namespace HttpCalls

/-- The URI of an outgoing request. -/
structure RequestUri where
  /-- Empty if the text is an authority only. -/
  scheme : List Char
  authority : List Char
  /-- The path and the query. -/
  resource : List Char
deriving DecidableEq, Repr

namespace RequestUri

/-- Why a text is no URI for a request. -/
inductive Fault
  | tooLong | schemeTooLong | character | authority | form
deriving DecidableEq, Repr

/-- The fault in words. -/
def Fault.text : Fault → String
  | .tooLong => "uri too long"
  | .schemeTooLong => "scheme too long"
  | .character => "invalid uri character"
  | .authority => "invalid authority"
  | .form => "invalid format"

/-! ## Schemes -/

/-- Whether a character may stand in a scheme. -/
def isSchemeChar (c : Char) : Bool := c.isAlphanum || c = '+' || c = '-' || c = '.'

/-- The scheme in its usual spelling: those of the web are written in lower case. -/
def usualScheme (name : List Char) : List Char :=
  let lower := name.map Char.toLower
  if lower = "http".toList || lower = "https".toList then lower else name

/-- The scheme, if the text has one, and the text behind it. -/
def cutScheme (text : List Char) : Except Fault (List Char × List Char) :=
  let name := text.takeWhile isSchemeChar
  match Text.dropStart? "://".toList (text.dropWhile isSchemeChar) with
  | none => .ok ([], text)
  | some rest => if 64 < name.length then .error .schemeTooLong else .ok (usualScheme name, rest)

/-! ## Authorities -/

/-- Whether a character ends an authority. -/
def endsAuthority (c : Char) : Bool := c = '/' || c = '?' || c = '#'

/-- The authority at the head of a text. -/
def authorityOf (text : List Char) : List Char := text.takeWhile (!endsAuthority ·)

/-- What stands behind the authority. -/
def behindAuthority (text : List Char) : List Char := text.dropWhile (!endsAuthority ·)

/-- Whether a character may stand in an authority without being watched. -/
def isAuthorityChar (c : Char) : Bool := c.isAlphanum || "!$&'()*+,-.;=_~".toList.contains c

/-- What is known of an authority when a part of it is read. -/
structure Reading where
  /-- The colons of the host and its port, those between brackets left out. -/
  colons : Nat := 0
  opened : Bool := false
  closed : Bool := false
  /-- Whether the host has an escape. -/
  escaped : Bool := false
  /-- Whether an at sign came last. -/
  afterUser : Bool := false
deriving DecidableEq, Repr

/-- Reads one more character of an authority. A user name takes back what was known of the host. -/
def Reading.next (r : Reading) (c : Char) : Except Fault Reading :=
  let r := { r with afterUser := c = '@' }
  match c with
  | ':' => if r.colons < 8 then .ok { r with colons := r.colons + 1 } else .error .authority
  | '[' => if r.escaped || r.opened then .error .authority else .ok { r with opened := true }
  | ']' =>
    if !r.opened || r.closed then .error .authority
    else .ok { r with closed := true, colons := 0, escaped := false }
  | '@' => .ok { r with colons := 0, escaped := false }
  | '%' => .ok { r with escaped := true }
  | c => if isAuthorityChar c then .ok r else .error .character

/-- Whether an authority may end here. -/
def Reading.mayEnd (r : Reading) : Bool :=
  r.opened = r.closed && r.colons ≤ 1 && !r.afterUser && !r.escaped

/-- Checks an authority, from its first character on. -/
def checkAuthority (authority : List Char) : Except Fault Unit := do
  let r ← authority.foldlM Reading.next {}
  if r.mayEnd then .ok () else .error .authority

/-! ## Resources -/

/-- Whether a character may stand in a path. -/
def isPathChar (c : Char) : Bool :=
  !(c.toNat ≤ 0x20 || c.toNat = 0x7F || "#<>?`".toList.contains c)

/-- Whether a character may stand in a query. -/
def isQueryChar (c : Char) : Bool :=
  !(c.toNat ≤ 0x20 || c.toNat = 0x7F || "\"#<>".toList.contains c)

/-- Whether the characters of a path and a query are legal. -/
def isResource (resource : List Char) : Bool :=
  match Text.cut? '?' resource with
  | some (path, query) => path.all isPathChar && query.all isQueryChar
  | none => resource.all isPathChar

/-- The text in front of a fragment. -/
def withoutFragment (text : List Char) : List Char := text.takeWhile (· ≠ '#')

/-- Checks a path and a query; a fragment behind them is left out. -/
def checkResource (text : List Char) : Except Fault (List Char) :=
  if isResource (withoutFragment text) then .ok (withoutFragment text) else .error .character

/-! ## The whole -/

/-- Reads the text of a URI: an authority behind a scheme, or an authority and nothing else. -/
def ofText (text : List Char) : Except Fault RequestUri := do
  if 65534 < (String.ofList text).utf8ByteSize then .error .tooLong
  let (scheme, rest) ← cutScheme text
  let authority := authorityOf rest
  checkAuthority authority
  if scheme.isEmpty then
    if authority = rest then .ok { scheme, authority, resource := [] } else .error .form
  else if authority.isEmpty then .error .form
  else return { scheme, authority, resource := ← checkResource (behindAuthority rest) }

/-- The path and the query as they are asked for: a path starts with a slash. -/
def asked (u : RequestUri) : List Char :=
  if u.resource.head? = some '/' then u.resource else '/' :: u.resource

end RequestUri

end HttpCalls
