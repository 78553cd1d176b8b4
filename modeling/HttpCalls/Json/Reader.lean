-- Reading JSON from octets. A reader takes octets and gives a value with the
-- octets that follow it, or the cause of a refusal with the number of octets that
-- stand behind the place of the fault. The line and the column are counted last.
import HttpCalls.Json.Basic
import HttpCalls.Text.Utf8
import HttpCalls.Text.Blank

namespace HttpCalls.Json

namespace Reader

/-! ## Faults -/

/-- Why a text is not JSON. -/
inductive Cause
  | endInList | endInObject | endInString | endInValue
  | noColon | noListEnd | noObjectEnd | noWord | noValue
  | badEscape | badNumber | tooLarge | badUnicode | controlCharacter
  | keyNotString | loneSurrogate | trailingComma | trailing | openSurrogate | tooDeep
deriving DecidableEq, Repr

/-- The cause in words. -/
def Cause.text : Cause → String
  | .endInList => "EOF while parsing a list"
  | .endInObject => "EOF while parsing an object"
  | .endInString => "EOF while parsing a string"
  | .endInValue => "EOF while parsing a value"
  | .noColon => "expected `:`"
  | .noListEnd => "expected `,` or `]`"
  | .noObjectEnd => "expected `,` or `\x7d`"
  | .noWord => "expected ident"
  | .noValue => "expected value"
  | .badEscape => "invalid escape"
  | .badNumber => "invalid number"
  | .tooLarge => "number out of range"
  | .badUnicode => "invalid unicode code point"
  | .controlCharacter => "control character (\\u0000-\\u001F) found while parsing a string"
  | .keyNotString => "key must be a string"
  | .loneSurrogate => "lone leading surrogate in hex escape"
  | .trailingComma => "trailing comma"
  | .trailing => "trailing characters"
  | .openSurrogate => "unexpected end of hex escape"
  | .tooDeep => "recursion limit exceeded"

/-- A refusal: its cause, and how many octets are left behind its place. -/
structure Fault where
  cause : Cause
  left : Nat
deriving DecidableEq, Repr

/-- What a reader gives: a result with the octets behind it, or a fault. -/
abbrev Read (α : Type) := Except Fault (α × Bytes)

/-- A fault with the octets `rest` behind its place. -/
def refuse {α : Type} (cause : Cause) (rest : Bytes) : Except Fault α := .error ⟨cause, rest.length⟩

/-- The octets without the blank space at their head. -/
def skipBlank (s : Bytes) : Bytes := s.dropWhile Blank.isJson

/-- Reads the rest of a word that is already known from its first letter. -/
def word : Bytes → Bytes → Except Fault Bytes
  | [], s => .ok s
  | _ :: _, [] => refuse .endInValue []
  | e :: es, b :: s => if b = e then word es s else refuse .noWord s

/-! ## Strings -/

/-- The value of a hexadecimal digit. -/
def hexValue? (b : UInt8) : Option Nat :=
  if 0x30 ≤ b ∧ b ≤ 0x39 then some (b.toNat - 0x30)
  else if 0x41 ≤ b ∧ b ≤ 0x46 then some (b.toNat - 0x37)
  else if 0x61 ≤ b ∧ b ≤ 0x66 then some (b.toNat - 0x57)
  else none

/-- Four hexadecimal digits. -/
def hexUnit : Bytes → Read Nat
  | a :: b :: c :: d :: rest =>
    match hexValue? a, hexValue? b, hexValue? c, hexValue? d with
    | some a, some b, some c, some d => .ok (((a * 16 + b) * 16 + c) * 16 + d, rest)
    | _, _, _, _ => refuse .badEscape rest
  | _ => refuse .endInString []

/-- The second half of a surrogate pair, which has to be an escape too. -/
def lowSurrogate : Bytes → Read Nat
  | 0x5C :: 0x75 :: rest =>
    match hexUnit rest with
    | .error e => .error e
    | .ok (n, rest) => if 0xDC00 ≤ n ∧ n ≤ 0xDFFF then .ok (n, rest) else refuse .loneSurrogate rest
  | [0x5C] => refuse .endInString []
  | 0x5C :: _ :: rest => refuse .openSurrogate rest
  | _ :: rest => refuse .openSurrogate rest
  | [] => refuse .endInString []

/-- The code point after `\u`. -/
def unicodeEscape (s : Bytes) : Read Nat :=
  match hexUnit s with
  | .error e => .error e
  | .ok (n, rest) =>
    if 0xDC00 ≤ n ∧ n ≤ 0xDFFF then refuse .loneSurrogate rest
    else if n < 0xD800 ∨ 0xDBFF < n then .ok (n, rest)
    else
      match lowSurrogate rest with
      | .error e => .error e
      | .ok (low, rest) => .ok ((n - 0xD800) * 0x400 + (low - 0xDC00) + 0x10000, rest)

/-- The octet that a one-letter escape stands for. -/
def shortEscape? (b : UInt8) : Option UInt8 :=
  if b = 0x22 ∨ b = 0x5C ∨ b = 0x2F then some b
  else if b = 0x62 then some 0x08
  else if b = 0x66 then some 0x0C
  else if b = 0x6E then some 0x0A
  else if b = 0x72 then some 0x0D
  else if b = 0x74 then some 0x09
  else none

/-- The octets that an escape stands for, after its backslash. -/
def escape : Bytes → Read Bytes
  | [] => refuse .endInString []
  | b :: rest =>
    match shortEscape? b with
    | some c => .ok ([c], rest)
    | none =>
      if b = 0x75 then
        match unicodeEscape rest with
        | .error e => .error e
        | .ok (n, rest) => .ok (String.utf8EncodeChar (Char.ofNat n), rest)
      else refuse .badEscape rest

theorem hexUnit_lt {s rest : Bytes} {n : Nat} (h : hexUnit s = .ok (n, rest)) :
    rest.length < s.length := by
  unfold hexUnit at h
  split at h
  · split at h
    · simp only [Except.ok.injEq, Prod.mk.injEq] at h
      simp [← h.2]
      omega
    · cases h
  · cases h

theorem lowSurrogate_lt {s rest : Bytes} {n : Nat} (h : lowSurrogate s = .ok (n, rest)) :
    rest.length < s.length := by
  unfold lowSurrogate at h
  split at h
  · split at h
    · cases h
    · rename_i h1
      split at h
      · cases h
        have := hexUnit_lt h1
        simp only [List.length_cons]
        omega
      · cases h
  all_goals cases h

theorem unicodeEscape_lt {s rest : Bytes} {n : Nat} (h : unicodeEscape s = .ok (n, rest)) :
    rest.length < s.length := by
  unfold unicodeEscape at h
  split at h
  · cases h
  · rename_i hu
    have shorter := hexUnit_lt hu
    split at h
    · cases h
    · split at h
      · cases h
        exact shorter
      · split at h
        · cases h
        · rename_i hl
          cases h
          exact Nat.lt_trans (lowSurrogate_lt hl) shorter

theorem escape_lt {s rest out : Bytes} (h : escape s = .ok (out, rest)) :
    rest.length < s.length := by
  unfold escape at h
  split at h
  · cases h
  · split at h
    · cases h
      simp
    · split at h
      · split at h
        · cases h
        · rename_i h1
          cases h
          exact Nat.lt_succ_of_lt (unicodeEscape_lt h1)
      · cases h

/-- The octets of a string up to its closing quote, with the escapes undone. -/
def stringBody (s : Bytes) : Read Bytes :=
  match s with
  | [] => refuse .endInString []
  | b :: rest =>
    if b = 0x22 then .ok ([], rest)
    else if b = 0x5C then
      match _h : escape rest with
      | .error e => .error e
      | .ok (out, rest) =>
        match stringBody rest with
        | .error e => .error e
        | .ok (more, rest) => .ok (out ++ more, rest)
    else if b < 0x20 then refuse .controlCharacter rest
    else
      match stringBody rest with
      | .error e => .error e
      | .ok (more, rest) => .ok (b :: more, rest)
termination_by s.length
decreasing_by
  · exact Nat.lt_succ_of_lt (escape_lt _h)
  · exact Nat.lt_succ_self _

/-- The text of a string after its opening quote. Octets that spell no text are reported
where they stand when the unescaped string is laid before the closing quote. -/
def stringText (s : Bytes) : Read String :=
  match stringBody s with
  | .error e => .error e
  | .ok (bytes, rest) =>
    match Utf8.decode? bytes with
    | some text => .ok (String.ofList text, rest)
    | none => .error ⟨.badUnicode, rest.length + (bytes.length - Utf8.soundLength bytes)⟩

/-! ## Numbers -/

/-- Whether the octet is a decimal digit. -/
def isDigit (b : UInt8) : Bool := 0x30 ≤ b && b ≤ 0x39

/-- Whether a digit stands at the head. -/
def atDigit : Bytes → Bool
  | [] => false
  | b :: _ => isDigit b

/-- Adds digits to a significand as long as it stays a word of 64 bits. -/
def takeDigits (significand : Nat) : Bytes → Nat × Bytes
  | [] => (significand, [])
  | b :: rest =>
    let next := significand * 10 + (b.toNat - 0x30)
    if isDigit b && next < 2 ^ 64 then takeDigits next rest else (significand, b :: rest)

/-- The octets without the digits at their head. -/
def skipDigits (s : Bytes) : Bytes := s.dropWhile isDigit

/-- The real number of a significand and a decimal exponent: the significand is rounded
first, then divided or multiplied by one power of ten; small exponents go in steps. -/
def realOf (f : Binary64) (e : Int) : Option Binary64 :=
  if f.isZero then some f
  else if e < -308 then realOf (f.div (.ofDecimal false 1 308)) (e + 308)
  else if e < 0 then some (f.div (.ofDecimal false 1 (-e)))
  else if 308 < e then none
  else
    let product := f.mul (.ofDecimal false 1 e)
    if product.isFinite then some product else none
termination_by (-e).toNat

/-- A real number read up to `rest`. -/
def real (negative : Bool) (significand : Nat) (e : Int) (rest : Bytes) : Read Number :=
  match realOf (.ofNat significand) e with
  | none => refuse .tooLarge rest
  | some x => .ok (.real (if negative then x.neg else x), rest)

/-- The digits of an exponent as long as they stay below `2 ^ 31`. -/
def takeExponent (e : Nat) : Bytes → Nat × Bytes
  | [] => (e, [])
  | b :: rest =>
    let next := e * 10 + (b.toNat - 0x30)
    if isDigit b && next < 2 ^ 31 then takeExponent next rest else (e, b :: rest)

/-- Reads an exponent after its letter; `e` is the exponent so far. -/
def exponentPart (negative : Bool) (significand : Nat) (e : Int) (s : Bytes) : Read Number :=
  let (up, digits) :=
    match s with
    | 0x2B :: rest => (true, rest)
    | 0x2D :: rest => (false, rest)
    | s => (true, s)
  match digits with
  | [] => refuse .endInValue []
  | b :: rest =>
    if !isDigit b then refuse .badNumber rest
    else
      let (n, after) := takeExponent (b.toNat - 0x30) rest
      if atDigit after then
        if up && significand != 0 then refuse .tooLarge (after.drop 1)
        else .ok (.real (.zero negative), skipDigits after)
      else real negative significand (if up then e + n else e - n) after

/-- Reads an exponent if there is one. -/
def exponentOrEnd (negative : Bool) (significand : Nat) (e : Int) (s : Bytes) : Read Number :=
  match s with
  | 0x65 :: rest => exponentPart negative significand e rest
  | 0x45 :: rest => exponentPart negative significand e rest
  | s => real negative significand e s

/-- Reads the digits behind a point; what a full significand cannot take is dropped. -/
def fractionPart (negative : Bool) (significand : Nat) (e : Int) (s : Bytes) : Read Number :=
  let (significand, after) := takeDigits significand s
  let taken := s.length - after.length
  if taken = 0 && !atDigit after then
    match after with
    | [] => refuse .endInValue []
    | _ :: rest => refuse .badNumber rest
  else exponentOrEnd negative significand (e - taken) (skipDigits after)

/-- The number of a whole significand; minus zero is a real number. -/
def wholeOf (negative : Bool) (significand : Nat) : Number :=
  if !negative then .ofNat significand
  else if significand = 0 then .real (.zero true)
  else .ofInt (-significand)

/-- Reads what can follow the whole digits of a number. -/
def afterWhole (negative : Bool) (significand : Nat) (s : Bytes) : Read Number :=
  match s with
  | 0x2E :: rest => fractionPart negative significand 0 rest
  | 0x65 :: rest => exponentPart negative significand 0 rest
  | 0x45 :: rest => exponentPart negative significand 0 rest
  | s => .ok (wholeOf negative significand, s)

/-- Reads a number behind its sign. -/
def signedNumber (negative : Bool) : Bytes → Read Number
  | [] => refuse .endInValue []
  | b :: rest =>
    if b = 0x30 then
      if atDigit rest then refuse .badNumber (rest.drop 1) else afterWhole negative 0 rest
    else if isDigit b then
      let (significand, after) := takeDigits (b.toNat - 0x30) rest
      if atDigit after then
        let behind := skipDigits after
        let e : Int := after.length - behind.length
        match behind with
        | 0x2E :: rest => fractionPart negative significand e rest
        | behind => exponentOrEnd negative significand e behind
      else afterWhole negative significand after
    else refuse .badNumber rest

/-! ## Values -/

/-- Reads the items of an array and its end. The last number bounds how many there are. -/
def items (value : Bytes → Read Json) (first : Bool) (s : Bytes) : (bound : Nat) → Read (List Json)
  | 0 => refuse .endInList []
  | bound + 1 =>
    let item (s : Bytes) : Read (List Json) :=
      match value s with
      | .error e => .error e
      | .ok (v, rest) =>
        match items value false rest bound with
        | .error e => .error e
        | .ok (vs, rest) => .ok (v :: vs, rest)
    match skipBlank s with
    | [] => refuse .endInList []
    | b :: rest =>
      if b = 0x5D then .ok ([], rest)
      else if first then item (b :: rest)
      else if b = 0x2C then
        match skipBlank rest with
        | [] => refuse .endInValue []
        | c :: rest => if c = 0x5D then refuse .trailingComma rest else item (c :: rest)
      else refuse .noListEnd rest

/-- Reads an entry of an object behind the quote that opens its name. -/
def entry (value : Bytes → Read Json) (s : Bytes) : Read (String × Json) :=
  match stringText s with
  | .error e => .error e
  | .ok (name, rest) =>
    match skipBlank rest with
    | [] => refuse .endInObject []
    | b :: rest =>
      if b = 0x3A then
        match value rest with
        | .error e => .error e
        | .ok (v, rest) => .ok ((name, v), rest)
      else refuse .noColon rest

/-- Reads the entries of an object and its end. The last number bounds how many there are. -/
def entries (value : Bytes → Read Json) (first : Bool) (s : Bytes) :
    (bound : Nat) → Read (List (String × Json))
  | 0 => refuse .endInObject []
  | bound + 1 =>
    let member (s : Bytes) : Read (List (String × Json)) :=
      match entry value s with
      | .error e => .error e
      | .ok (kv, rest) =>
        match entries value false rest bound with
        | .error e => .error e
        | .ok (kvs, rest) => .ok (kv :: kvs, rest)
    match skipBlank s with
    | [] => refuse .endInObject []
    | b :: rest =>
      if b = 0x7D then .ok ([], rest)
      else if first then if b = 0x22 then member rest else refuse .keyNotString rest
      else if b = 0x2C then
        match skipBlank rest with
        | [] => refuse .endInValue []
        | c :: rest =>
          if c = 0x22 then member rest
          else if c = 0x7D then refuse .trailingComma rest
          else refuse .keyNotString rest
      else refuse .noObjectEnd rest

/-- Reads a value. Without a reader for what is nested, brackets are refused. -/
def valueWith (nested : Option (Bytes → Read Json)) (s : Bytes) : Read Json :=
  match skipBlank s with
  | [] => refuse .endInValue []
  | b :: rest =>
    if b = 0x6E then (word [0x75, 0x6C, 0x6C] rest).map (.null, ·)
    else if b = 0x74 then (word [0x72, 0x75, 0x65] rest).map (.bool true, ·)
    else if b = 0x66 then (word [0x61, 0x6C, 0x73, 0x65] rest).map (.bool false, ·)
    else if b = 0x2D then (signedNumber true rest).map fun (n, rest) => (.number n, rest)
    else if isDigit b then (signedNumber false (b :: rest)).map fun (n, rest) => (.number n, rest)
    else if b = 0x22 then (stringText rest).map fun (t, rest) => (.string t, rest)
    else if b = 0x5B then
      match nested with
      | none => refuse .tooDeep rest
      | some value => (items value true rest (rest.length + 1)).map fun (vs, rest) => (.array vs, rest)
    else if b = 0x7B then
      match nested with
      | none => refuse .tooDeep rest
      | some value =>
        (entries value true rest (rest.length + 1)).map fun (kvs, rest) =>
          (.object (Fields.ofList kvs), rest)
    else refuse .noValue rest

/-- Reads a value with at most `depth` brackets open at a time. -/
def value : (depth : Nat) → Bytes → Read Json
  | 0 => valueWith none
  | depth + 1 => valueWith (some (value depth))

/-- How many brackets may be open at a time. -/
def maxDepth : Nat := 127

/-- Reads one value that fills the octets. -/
def document (s : Bytes) : Except Fault Json :=
  match value maxDepth s with
  | .error e => .error e
  | .ok (v, rest) =>
    match skipBlank rest with
    | [] => .ok v
    | _ :: rest => refuse .trailing rest

/-! ## Places -/

/-- A refusal with its place: the line, and the octets since that line began. -/
structure ParseError where
  cause : Cause
  line : Nat
  column : Nat
deriving DecidableEq, Repr

/-- The place of a fault in the octets that were read. -/
def Fault.locate (s : Bytes) (fault : Fault) : ParseError :=
  let before := s.take (s.length - fault.left)
  { cause := fault.cause
    line := 1 + before.count 0x0A
    column := (before.reverse.takeWhile (· ≠ 0x0A)).length }

/-- The refusal in words. -/
def ParseError.message (e : ParseError) : String :=
  e.cause.text ++ " at line " ++ toString e.line ++ " column " ++ toString e.column

end Reader

/-- The value that octets spell. -/
def parse (s : Bytes) : Except Reader.ParseError Json := (Reader.document s).mapError (·.locate s)

end HttpCalls.Json
