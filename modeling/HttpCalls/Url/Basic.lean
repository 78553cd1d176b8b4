-- Absolute URLs. A URL is kept in its written form, part by part: what was spelled
-- in a roundabout way is spelled plainly here. Its text is the parts in a row.
import HttpCalls.Text.Blank
import HttpCalls.Text.Percent
import HttpCalls.Url.Address
import HttpCalls.Url.Domain

namespace HttpCalls

open Text

/-- An absolute URL. -/
structure Url where
  scheme : List Char
  /-- User, host and port, as they stand behind the two slashes. -/
  authority : Option (List Char)
  path : List Char
  query : Option (List Char)
  fragment : Option (List Char)
deriving DecidableEq, Repr

namespace Url

/-- The text of a URL. -/
def text (u : Url) : List Char :=
  let authority :=
    match u.authority with
    | some a => '/' :: '/' :: a
    | none => if startsWith ['/', '/'] u.path then ['/', '.'] else []
  let query :=
    match u.query with
    | some q => '?' :: q
    | none => []
  let fragment :=
    match u.fragment with
    | some f => '#' :: f
    | none => []
  u.scheme ++ ':' :: authority ++ u.path ++ query ++ fragment

/-- Why a text is no absolute URL. -/
inductive Fault
  | relative | emptyHost | domain | domainCharacter | port | ipv4 | ipv6
deriving DecidableEq, Repr

/-- The fault in words. -/
def Fault.text : Fault → String
  | .relative => "relative URL without a base"
  | .emptyHost => "empty host"
  | .domain => "invalid international domain name"
  | .domainCharacter => "invalid domain character"
  | .port => "invalid port number"
  | .ipv4 => "invalid IPv4 address"
  | .ipv6 => "invalid IPv6 address"

/-! ## Characters -/

/-- Controls and all characters beyond ASCII. -/
def isControl (c : Char) : Bool := c.toNat < 0x20 || 0x7E < c.toNat

/-- The characters that stand for themselves in a fragment. -/
def keepsInFragment (c : Char) : Bool := !isControl c && !" \"<>`".toList.contains c

/-- The characters that stand for themselves in a path. -/
def keepsInPath (c : Char) : Bool :=
  keepsInFragment c && c ≠ '#' && c ≠ '?' && c ≠ '{' && c ≠ '}'

/-- The characters that stand for themselves in a user name or a password. -/
def keepsInUser (c : Char) : Bool := keepsInPath c && !"/:;=@[\\]^|".toList.contains c

/-- The characters that stand for themselves in a query. -/
def keepsInQuery (special : Bool) (c : Char) : Bool :=
  !isControl c && !" \"#<>".toList.contains c && !(special && c = '\'')

/-! ## Schemes -/

/-- The schemes whose URLs always have an authority, with their usual ports. -/
def specialSchemes : List (String × Nat) :=
  [("http", 80), ("https", 443), ("ws", 80), ("wss", 443), ("ftp", 21)]

/-- The usual port of a scheme. -/
def usualPort? (scheme : List Char) : Option Nat := specialSchemes.lookup (String.ofList scheme)

/-- The kinds of schemes. -/
inductive Kind
  | special | file | other
deriving DecidableEq, Repr

/-- The kind of a scheme. -/
def kindOf (scheme : List Char) : Kind :=
  if scheme = "file".toList then .file
  else if (usualPort? scheme).isSome then .special
  else .other

/-- Whether the backslash is a slash. -/
def Kind.takesBackslash (k : Kind) : Bool := k ≠ .other

/-- Whether a character is a slash. -/
def Kind.isSlash (k : Kind) (c : Char) : Bool := c = '/' || (k.takesBackslash && c = '\\')

/-- The scheme in front of the first colon, in lower case, and the rest. -/
def scheme? (text : List Char) : Option (List Char × List Char) :=
  match cut? ':' text with
  | some (c :: more, rest) =>
    if c.isAlpha && more.all fun d => d.isAlphanum || d = '+' || d = '-' || d = '.' then
      some ((c :: more).map Char.toLower, rest)
    else none
  | _ => none

/-! ## Authorities -/

/-- Whether a character ends an authority. -/
def Kind.endsAuthority (k : Kind) (c : Char) : Bool := k.isSlash c || c = '?' || c = '#'

/-- The host of a URL of a special scheme. -/
def specialHost (raw : List Char) : Except Fault (List Char) :=
  match raw with
  | '[' :: rest =>
    if rest.getLast? = some ']' then
      match ipv6? rest.dropLast with
      | some groups => .ok ('[' :: ipv6Text groups ++ [']'])
      | none => .error .ipv6
    else .error .ipv6
  | raw =>
    match (Utf8.decode? (Percent.decode (Utf8.encode raw))).bind asciiDomain? with
    | none => .error .domain
    | some name =>
      if name.isEmpty then .error .emptyHost
      else if endsInNumber name then
        match ipv4? name with
        | some address => .ok (ipv4Text address)
        | none => .error .ipv4
      else .ok name

/-- The host of a URL of any other scheme. -/
def plainHost (raw : List Char) : Except Fault (List Char) :=
  match raw with
  | '[' :: _ => specialHost raw
  | raw =>
    if raw.any fun c => c = '\x00' || " #/:<>?@[\\]^|".toList.contains c then .error .domainCharacter
    else .ok (Percent.encode (!isControl ·) raw)

/-- The host at the head of an authority: a colon inside brackets does not end it. -/
def hostSpan (inside : Bool) : List Char → List Char × List Char
  | [] => ([], [])
  | c :: rest =>
    if c = ':' && !inside then ([], c :: rest)
    else
      let (host, after) := hostSpan (c = '[' || (inside && c ≠ ']')) rest
      (c :: host, after)

/-- The port behind a host. The usual port of the scheme is left out. -/
def portText (scheme : List Char) : List Char → Except Fault (List Char)
  | ':' :: ds =>
    if !ds.all Char.isDigit then .error .port
    else if ds.isEmpty then .ok []
    else
      let port := (Hex.number? 10 ds).getD 0
      if 65535 < port then .error .port
      else if usualPort? scheme = some port then .ok []
      else .ok (':' :: Decimal.digits port)
  | _ => .ok []

/-- The text behind the last `@` and the text before it, if there is one. -/
def splitUser (authority : List Char) : Option (List Char) × List Char :=
  let after := (authority.reverse.takeWhile (· ≠ '@')).reverse
  if after.length = authority.length then (none, authority)
  else (some (authority.take (authority.length - after.length - 1)), after)

/-- The user in front of a host: a name, and a password unless it is empty. -/
def userText (raw : List Char) : List Char :=
  let encode := Percent.encode keepsInUser
  let (name, password) := (cut? ':' raw).getD (raw, [])
  let text := encode name ++ if password.isEmpty then [] else ':' :: encode password
  if text.isEmpty then [] else text ++ ['@']

/-- The written form of an authority; `more` tells whether anything follows it. -/
def authorityText (scheme : List Char) (kind : Kind) (raw : List Char) (more : Bool) :
    Except Fault (List Char) := do
  let (user, rest) := splitUser raw
  if user = some [] && rest.isEmpty && more then throw .emptyHost
  let user := userText (user.getD [])
  let (host, port) := hostSpan false rest
  if host.isEmpty && (kind = .special || !port.isEmpty || !user.isEmpty) then throw .emptyHost
  let host ← if kind = .special then specialHost host else plainHost host
  let port ← portText scheme port
  return user ++ host ++ port

/-! ## Paths -/

/-- A segment with its written dots. -/
def plainDots (segment : List Char) : List Char :=
  match segment with
  | '%' :: '2' :: e :: rest =>
    if e = 'e' || e = 'E' then '.' :: plainDots rest else segment
  | c :: rest => c :: plainDots rest
  | [] => []

/-- Whether a segment is a drive letter of a file system. -/
def isDrive (segment : List Char) : Bool :=
  match segment with
  | [c, d] => c.isAlpha && (d = ':' || d = '|')
  | _ => false

/-- The segments above one level; there is nothing above a drive letter. -/
def shorten (done : List (List Char)) : List (List Char) :=
  if done.getLast?.any isDrive then done else done.dropLast

/-- Adds segments to those that are done; dots move up or stay, and the last one keeps its slash. -/
def addSegments (kind : Kind) (done : List (List Char)) : List (List Char) → List (List Char)
  | [] => done
  | segment :: more =>
    let dots := plainDots segment
    let last := more.isEmpty
    if dots = ['.', '.'] then
      let up := shorten done
      addSegments kind (if last then up ++ [[]] else up) more
    else if dots = ['.'] then addSegments kind (if last then done ++ [[]] else done) more
    else if kind = .file && done.isEmpty && isDrive segment then
      addSegments kind [segment.take 1 ++ [':']] more
    else addSegments kind (done ++ [segment]) more

/-- The written form of a path, without its first slash. -/
def pathText (kind : Kind) (raw : List Char) : List Char :=
  let slashed := raw.map fun c => if kind.isSlash c then '/' else c
  let segments := (pieces '/' slashed).map (Percent.encode keepsInPath)
  (addSegments kind [] segments).flatMap ('/' :: ·)

/-! ## Whole URLs -/

/-- The text up to a question mark or a hash, the query and the fragment. -/
def splitTail (kind : Kind) (text : List Char) :
    List Char × Option (List Char) × Option (List Char) :=
  let (rest, fragment) :=
    match cut? '#' text with
    | some (before, after) => (before, some (Percent.encode keepsInFragment after))
    | none => (text, none)
  match cut? '?' rest with
  | some (before, after) => (before, some (Percent.encode (keepsInQuery (kind ≠ .other)) after), fragment)
  | none => (rest, none, fragment)

/-- The URL of a special scheme, behind the colon: any number of slashes leads in. -/
def readSpecial (scheme rest : List Char) : Except Fault Url := do
  let body := rest.dropWhile Kind.special.isSlash
  let raw := body.takeWhile (!Kind.special.endsAuthority ·)
  let after := body.dropWhile (!Kind.special.endsAuthority ·)
  let authority ← authorityText scheme .special raw (!after.isEmpty)
  let (path, query, fragment) := splitTail .special after
  return { scheme, authority := some authority, path := pathText .special (path.drop 1), query, fragment }

/-- The path of a file, with a single slash in front. -/
def filePath (raw : List Char) : List Char :=
  '/' :: (pathText .file raw).dropWhile (· = '/')

/-- The URL of a file, behind the colon. -/
def readFile (scheme rest : List Char) : Except Fault Url := do
  let (before, query, fragment) := splitTail .file rest
  let url (host path : List Char) : Url :=
    { scheme, authority := some host, path := filePath path, query, fragment }
  match before with
  | a :: b :: body =>
    if Kind.file.isSlash a && Kind.file.isSlash b then
      let raw := body.takeWhile (!Kind.file.isSlash ·)
      let after := body.dropWhile (!Kind.file.isSlash ·)
      if isDrive raw then return url [] body
      else if raw.isEmpty then return url [] (after.drop 1)
      else
        let host ← specialHost raw
        return url (if host = "localhost".toList then [] else host) (after.drop 1)
    else return url [] (if Kind.file.isSlash a then b :: body else before)
  | [a] => return url [] (if Kind.file.isSlash a then [] else before)
  | [] => return url [] []

/-- The URL of any other scheme, behind the colon. -/
def readOther (scheme rest : List Char) : Except Fault Url := do
  match rest with
  | '/' :: '/' :: body =>
    let raw := body.takeWhile (!Kind.other.endsAuthority ·)
    let after := body.dropWhile (!Kind.other.endsAuthority ·)
    let authority ← authorityText scheme .other raw (!after.isEmpty)
    let (path, query, fragment) := splitTail .other after
    return { scheme, authority := some authority
             path := if path.isEmpty then [] else pathText .other (path.drop 1), query, fragment }
  | rest =>
    let (path, query, fragment) := splitTail .other rest
    let path :=
      match path with
      | '/' :: path => pathText .other path
      | path => Percent.encode (!isControl ·) path
    return { scheme, authority := none, path, query, fragment }

/-- Reads an absolute URL. Blanks and controls around it, and tabs and line ends inside, do
not count. -/
def parse (text : List Char) : Except Fault Url :=
  let trimmed := Blank.strip (·.toNat ≤ 0x20) text
  let clean := trimmed.filter fun c => c ≠ '\t' && c ≠ '\n' && c ≠ '\r'
  match scheme? clean with
  | none => .error .relative
  | some (scheme, rest) =>
    match kindOf scheme with
    | .special => readSpecial scheme rest
    | .file => readFile scheme rest
    | .other => readOther scheme rest

end Url

end HttpCalls
