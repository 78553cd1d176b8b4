-- Header names, header values and lists of both. A name is a token in lower case
-- and a value holds no control character but the tab, so no list of headers can
-- break a message apart.

namespace HttpCalls

/-! ## Tokens -/

/-- The characters of a token. -/
def isTokenChar (c : Char) : Bool := c.isAlphanum || "!#$%&'*+-.^_`|~".toList.contains c

/-- Whether a text is a token: not empty, and of token characters only. -/
def isToken (text : List Char) : Bool := !text.isEmpty && text.all isTokenChar

/-! ## Names -/

/-- Whether a text is a header name: a token without capitals, of at most 65535 characters. -/
def isHeaderName (text : List Char) : Bool :=
  isToken text && text.all (!·.isUpper) && text.length < 65536

/-- The name of a header, in lower case. -/
structure HeaderName where
  text : List Char
  valid : isHeaderName text = true
deriving DecidableEq

/-- The header name that a text spells in any case. -/
def HeaderName.ofText? (text : List Char) : Option HeaderName :=
  let lower := text.map Char.toLower
  if h : isHeaderName lower = true then some ⟨lower, h⟩ else none

namespace HeaderName

/-- The formats that an answer may have. -/
def accept : HeaderName := ⟨"accept".toList, by decide⟩

/-- The ways in which an answer may be packed. -/
def acceptEncoding : HeaderName := ⟨"accept-encoding".toList, by decide⟩

/-- The format of a body. -/
def contentType : HeaderName := ⟨"content-type".toList, by decide⟩

/-- The octets in a body. -/
def contentLength : HeaderName := ⟨"content-length".toList, by decide⟩

/-- The authority that a request is for. -/
def host : HeaderName := ⟨"host".toList, by decide⟩

/-- The program that sends a request. -/
def userAgent : HeaderName := ⟨"user-agent".toList, by decide⟩

end HeaderName

/-! ## Values -/

/-- Whether a character may stand in a header value. -/
def isHeaderChar (c : Char) : Bool := (0x20 ≤ c.toNat && c.toNat ≠ 0x7F) || c = '\t'

/-- The value of a header. -/
structure HeaderValue where
  text : List Char
  valid : text.all isHeaderChar = true
deriving DecidableEq

namespace HeaderValue

/-- The header value that a text is, if it may be one. -/
def ofText? (text : List Char) : Option HeaderValue :=
  if h : text.all isHeaderChar = true then some ⟨text, h⟩ else none

/-- The value as text, when it holds visible ASCII, spaces and tabs only. -/
def visible? (v : HeaderValue) : Option (List Char) :=
  if v.text.all (fun c => (0x20 ≤ c.toNat && c.toNat < 0x7F) || c = '\t') then some v.text else none

/-- The format of JSON. -/
def json : HeaderValue := ⟨"application/json".toList, by decide⟩

/-- The ways of packing that a client undoes. -/
def packings : HeaderValue := ⟨"gzip,deflate,br".toList, by decide⟩

end HeaderValue

/-! ## Lists of headers -/

/-- Headers in the order in which they were added. -/
abbrev Headers := List (HeaderName × HeaderValue)

namespace Headers

/-- Whether a header of this name is there. -/
def has (headers : Headers) (name : HeaderName) : Bool := List.any headers (·.1 = name)

/-- The values under a name, in order. -/
def values (headers : Headers) (name : HeaderName) : List HeaderValue :=
  List.filterMap (fun (n, v) => if n = name then some v else none) headers

/-- One more value under a name. -/
def add (headers : Headers) (name : HeaderName) (value : HeaderValue) : Headers :=
  List.append headers [(name, value)]

/-- The headers with `value` as the only one under `name`. -/
def replace (headers : Headers) (name : HeaderName) (value : HeaderValue) : Headers :=
  List.append (List.filter (·.1 ≠ name) headers) [(name, value)]

/-- The headers with `value` under `name`, unless the name is there already. -/
def addIfAbsent (headers : Headers) (name : HeaderName) (value : HeaderValue) : Headers :=
  if has headers name then headers else add headers name value

/-- The names, each once, in the order of their characters. -/
def names (headers : Headers) : List HeaderName :=
  (List.eraseDups (List.map Prod.fst headers)).mergeSort fun a b =>
    String.ofList a.text ≤ String.ofList b.text

/-- The names in order, each with its values. -/
def grouped (headers : Headers) : List (HeaderName × List HeaderValue) :=
  (names headers).map fun name => (name, values headers name)

/-- The headers in the order of their names, those of one name in their own order. -/
def sorted (headers : Headers) : Headers :=
  (names headers).flatMap fun name => (values headers name).map (name, ·)

theorem values_add (headers : Headers) (name other : HeaderName) (value : HeaderValue) :
    values (add headers name value) other =
      values headers other ++ if name = other then [value] else [] := by
  by_cases h : name = other <;> simp [values, add, h]

theorem values_replace (headers : Headers) (name other : HeaderName) (value : HeaderValue) :
    values (replace headers name value) other =
      if name = other then [value] else values headers other := by
  by_cases h : name = other
  · subst h
    simp only [values, replace, List.append_eq, List.filterMap_append, List.filterMap_cons, if_true,
      List.filterMap_nil]
    rw [List.filterMap_eq_nil_iff.2]
    · rfl
    · intro p hp
      simp only [List.mem_filter, decide_eq_true_eq] at hp
      simp [hp.2]
  · simp only [values, replace, List.append_eq, List.filterMap_append, List.filterMap_cons, h, if_false,
      List.filterMap_nil, List.append_nil, List.filterMap_filter]
    congr 1
    funext p
    by_cases hp : p.1 = name
    · simp [hp, h]
    · simp [hp]

end Headers

end HttpCalls
