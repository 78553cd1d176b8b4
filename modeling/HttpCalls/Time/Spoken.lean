-- Lengths of time as they stand in settings: numbers with units, such as 1m 30s. The
-- parts add up, in any order. A number may have decimals when it comes to a whole
-- number of the parts that its unit is divided into.
import HttpCalls.Text.Blank
import HttpCalls.Text.Quoted
import HttpCalls.Time.Duration

namespace HttpCalls.Duration

/-! ## Units -/

/-- A unit: its length, and the length of the parts that its decimals count. -/
structure SpokenUnit where
  names : List String
  nanos : Nat
  /-- Nothing when the unit has no decimals. -/
  grain : Option Nat
deriving Repr

/-- The units. A month and a year are the twelfth part and the whole of 365.25 days. -/
def units : List SpokenUnit :=
  [{ names := ["ns", "nsec", "nanos"], nanos := 1, grain := none },
   { names := ["us", "usec", "µs"], nanos := 1000, grain := some 1 },
   { names := ["ms", "msec", "millis"], nanos := 1000000, grain := some 1 },
   { names := ["s", "sec", "secs", "second", "seconds"], nanos := second, grain := some 1 },
   { names := ["m", "min", "mins", "minute", "minutes"], nanos := 60 * second, grain := some 1 },
   { names := ["h", "hr", "hrs", "hour", "hours"], nanos := 3600 * second, grain := some second },
   { names := ["d", "day", "days"], nanos := 86400 * second, grain := some second },
   { names := ["w", "wk", "wks", "week", "weeks"], nanos := 604800 * second, grain := some second },
   { names := ["M", "month", "months"], nanos := 2630016 * second, grain := some second },
   { names := ["y", "yr", "yrs", "year", "years"], nanos := 31557600 * second, grain := some second }]

/-- The unit of a name; case counts. -/
def unit? (name : String) : Option SpokenUnit := units.find? (·.names.contains name)

/-! ## Faults -/

/-- Why a text is no length of time. Places are counted in octets. -/
inductive SpokenFault
  | empty
  | numberExpected (place : Nat)
  | invalidCharacter (place : Nat)
  | unitNeeded (number : Nat)
  | unknownUnit (name : String)
  | outOfRange
deriving DecidableEq, Repr

/-- The fault in words. -/
def SpokenFault.text : SpokenFault → String
  | .empty => "value was empty"
  | .numberExpected place => "expected number at " ++ toString place
  | .invalidCharacter place => "invalid character at " ++ toString place
  | .unitNeeded n =>
    "time unit needed, for example " ++ toString n ++ "sec or " ++ toString n ++ "ms"
  | .unknownUnit name =>
    "unknown time unit " ++ Quoted.ofString name ++ ", supported units: ns, us/µs, ms, sec, min, " ++
      "hours, days, weeks, months, years (and few variations)"
  | .outOfRange =>
    "number is too large or cannot be represented without a lack of precision " ++
      "(values below 1ns are not supported)"

/-! ## Reading -/

/-- A number that has to fit into 64 bits. -/
def word (n : Nat) : Except SpokenFault Nat := if n < 2 ^ 64 then .ok n else .error .outOfRange

/-- The number with one more digit. -/
def withDigit (n : Nat) (c : Char) : Except SpokenFault Nat := do
  word ((← word (n * 10)) + (c.toNat - 0x30))

/-- The decimals of a number: `part` out of `of`. -/
structure Decimals where
  part : Nat := 0
  of : Nat := 1

/-- The decimals with one more digit. -/
def Decimals.withDigit (d : Decimals) (c : Char) : Except SpokenFault Decimals := do
  let of ← word (d.of * 10)
  let part ← Duration.withDigit d.part c
  return { part, of }

/-- Adds so many nanoseconds, given as whole seconds and a rest of 64 bits. -/
def plus (sum seconds rest : Nat) : Except SpokenFault Nat := do
  let _ ← word (sum % second + rest)
  let total := sum + seconds * second + rest
  let _ ← word (total / second)
  return total

/-- Adds a number of a unit: units from the second on are counted in seconds. -/
def plusWhole (sum n : Nat) (u : SpokenUnit) : Except SpokenFault Nat := do
  if u.nanos < second then plus sum 0 (← word (n * u.nanos))
  else plus sum (← word (n * (u.nanos / second))) 0

/-- Adds the decimals of a number of a unit. -/
def plusDecimals (sum : Nat) (d : Decimals) (u : SpokenUnit) : Except SpokenFault Nat := do
  match u.grain with
  | none => throw .outOfRange
  | some grain =>
    let n ← word (d.part * (u.nanos / grain))
    if n % d.of = 0 then plus sum (if grain = second then n / d.of else 0) (if grain = second then 0 else n / d.of)
    else throw .outOfRange

/-- Adds a number with its decimals and the name of its unit. -/
def plusPart (sum n : Nat) (decimals : Option Decimals) (name : List Char) : Except SpokenFault Nat := do
  match unit? (String.ofList name) with
  | none => throw (if name.isEmpty then .unitNeeded n else .unknownUnit (String.ofList name))
  | some u =>
    let sum ← plusWhole sum n u
    match decimals with
    | none => return sum
    | some d => plusDecimals sum d u

/-- Where a reader is. -/
inductive ReadMode
  /-- Before a number; the search began at a place. -/
  | before (first : Bool) (start : Nat)
  /-- In a number. -/
  | number (n : Nat)
  /-- In the decimals of a number; a wrong character counts as being at a place. -/
  | decimals (n : Nat) (d : Decimals) (place : Nat)
  /-- In the name of a unit, which is kept in reverse. -/
  | unit (n : Nat) (d : Option Decimals) (name : List Char)

/-- Whether a character may stand in the name of a unit. -/
def isUnitLetter (c : Char) : Bool := c.isAlpha || c = 'µ'

/-- Reads on from a place, with the sum so far. -/
def readFrom (mode : ReadMode) (place sum : Nat) : List Char → Except SpokenFault Nat
  | [] =>
    match mode with
    | .before first _ => if first then .error .empty else .ok sum
    | .number n => plusPart sum n none []
    | .decimals n d wrong =>
      if d.of = 1 then .error (.invalidCharacter wrong) else plusPart sum n (some d) []
    | .unit n d name => plusPart sum n d name.reverse
  | c :: rest =>
    let next := place + c.utf8Size
    match mode with
    | .before first start =>
      if c.isDigit then readFrom (.number (c.toNat - 0x30)) next sum rest
      else if Blank.isUnicode c then readFrom (.before first start) next sum rest
      else .error (.numberExpected start)
    | .number n =>
      if c.isDigit then do
        let n ← withDigit n c
        readFrom (.number n) next sum rest
      else if Blank.isUnicode c then readFrom (.number n) next sum rest
      else if isUnitLetter c then readFrom (.unit n none [c]) next sum rest
      else if c = '.' then readFrom (.decimals n {} place) next sum rest
      else .error (.invalidCharacter place)
    | .decimals n d wrong =>
      if c.isDigit then do
        let d ← d.withDigit c
        readFrom (.decimals n d next) next sum rest
      else if Blank.isUnicode c then readFrom (.decimals n d next) next sum rest
      else if isUnitLetter c && d.of ≠ 1 then readFrom (.unit n (some d) [c]) next sum rest
      else .error (.invalidCharacter wrong)
    | .unit n d name =>
      if c.isDigit then do
        let sum ← plusPart sum n d name.reverse
        readFrom (.number (c.toNat - 0x30)) next sum rest
      else if Blank.isUnicode c then do
        let sum ← plusPart sum n d name.reverse
        readFrom (.before false next) next sum rest
      else if isUnitLetter c then readFrom (.unit n d (c :: name)) next sum rest
      else .error (.invalidCharacter place)

/-- Reads a length of time. A lone zero needs no unit. -/
def ofSpoken (text : String) : Except SpokenFault Duration :=
  if text = "0" then .ok ⟨0⟩
  else (readFrom (.before true 0) 0 0 text.toList).map fun nanos => ⟨nanos⟩

/-! ## Writing -/

/-- A number with a unit, when there is something to say. -/
def spokenItem (n : Nat) (name : String) : List String := if n = 0 then [] else [toString n ++ name]

/-- A number with a unit that has a plural. -/
def spokenItems (n : Nat) (name : String) : List String :=
  if n = 0 then [] else [toString n ++ name ++ if n = 1 then "" else "s"]

/-- The text of a length of time: from years down to nanoseconds, what is zero left out. -/
def spoken (d : Duration) : String :=
  let seconds := d.nanos / second
  let rest := d.nanos % second
  let ofYear := seconds % 31557600
  let ofMonth := ofYear % 2630016
  let ofDay := ofMonth % 86400
  if d.nanos = 0 then "0s"
  else
    " ".intercalate
      (spokenItems (seconds / 31557600) "year" ++ spokenItems (ofYear / 2630016) "month" ++
        spokenItems (ofMonth / 86400) "day" ++ spokenItem (ofDay / 3600) "h" ++
        spokenItem (ofDay % 3600 / 60) "m" ++ spokenItem (ofDay % 60) "s" ++
        spokenItem (rest / 1000000) "ms" ++ spokenItem (rest / 1000 % 1000) "us" ++
        spokenItem (rest % 1000) "ns")

end HttpCalls.Duration
