-- Hosts that are numbers: IPv4 addresses in the many spellings that URLs allow,
-- and IPv6 addresses with their one gap of zeros.
import HttpCalls.Decimal.Shortest
import HttpCalls.Text.Hex
import HttpCalls.Text.Pieces

namespace HttpCalls.Url

open Text

/-! ## IPv4 -/

/-- A part of an IPv4 address: decimal, octal behind `0`, or hexadecimal behind `0x`. -/
def ipv4Part? (part : List Char) : Option Nat :=
  let (base, ds) :=
    match part with
    | '0' :: 'x' :: rest => (16, rest)
    | '0' :: 'X' :: rest => (16, rest)
    | '0' :: c :: rest => (8, c :: rest)
    | rest => (10, rest)
  if part.isEmpty then none else Hex.number? base ds

/-- The last part of a dotted name; an empty one at the end does not count. -/
def lastPart? (name : List Char) : Option (List Char) :=
  match (pieces '.' name).reverse with
  | [] :: last :: _ => some last
  | [] :: _ => none
  | last :: _ => some last
  | [] => none

/-- Whether a name has to be read as an IPv4 address: its last part is a number. -/
def endsInNumber (name : List Char) : Bool :=
  match lastPart? name with
  | none => false
  | some last => (!last.isEmpty && last.all Char.isDigit) || (ipv4Part? last).isSome

/-- The address of one to four numbers, the last of which fills what is left. -/
def ipv4OfParts : List Nat → Option Nat
  | [a] => if a < 2 ^ 32 then some a else none
  | [a, b] => if a < 256 ∧ b < 2 ^ 24 then some (a * 2 ^ 24 + b) else none
  | [a, b, c] => if a < 256 ∧ b < 256 ∧ c < 2 ^ 16 then some (a * 2 ^ 24 + b * 2 ^ 16 + c) else none
  | [a, b, c, d] =>
    if a < 256 ∧ b < 256 ∧ c < 256 ∧ d < 256 then some (a * 2 ^ 24 + b * 2 ^ 16 + c * 2 ^ 8 + d)
    else none
  | _ => none

/-- The IPv4 address that a name spells. -/
def ipv4? (name : List Char) : Option Nat :=
  let parts := pieces '.' name
  let parts := if parts.getLast? = some [] then parts.dropLast else parts
  (parts.mapM ipv4Part?).bind ipv4OfParts

/-- The text of an IPv4 address. -/
def ipv4Text (a : Nat) : List Char :=
  joined ['.'] ([a / 2 ^ 24, a / 2 ^ 16 % 256, a / 2 ^ 8 % 256, a % 256].map Decimal.digits)

/-! ## IPv6 -/

/-- One to four hexadecimal digits. -/
def ipv6Group? (text : List Char) : Option Nat :=
  if 1 ≤ text.length ∧ text.length ≤ 4 then Hex.number? 16 text else none

/-- A decimal number below 256 without a zero in front. -/
def octet? (text : List Char) : Option Nat :=
  if text.isEmpty || (text.head? = some '0' && text ≠ ['0']) then none
  else (Hex.number? 10 text).filter (· < 256)

/-- The two groups of an IPv4 address with dots. -/
def dottedGroups? (text : List Char) : Option (List Nat) :=
  match (pieces '.' text).mapM octet? with
  | some [a, b, c, d] => some [a * 256 + b, c * 256 + d]
  | _ => none

/-- The groups between colons; the last one may be written with dots. -/
def ipv6Groups? : List (List Char) → Option (List Nat)
  | [] => some []
  | [last] =>
    match ipv6Group? last with
    | some g => some [g]
    | none => dottedGroups? last
  | text :: more => (ipv6Group? text).bind fun g => (ipv6Groups? more).map (g :: ·)

/-- The text before the first double colon and the text after it. -/
def cutGap? : List Char → Option (List Char × List Char)
  | ':' :: ':' :: rest => some ([], rest)
  | c :: rest => (cutGap? rest).map fun (before, after) => (c :: before, after)
  | [] => none

/-- The groups of one side of the gap. -/
def sideGroups? (text : List Char) : Option (List Nat) :=
  if text.isEmpty then some [] else ipv6Groups? (pieces ':' text)

/-- The eight groups of the IPv6 address that a text spells. -/
def ipv6? (text : List Char) : Option (List Nat) :=
  match cutGap? text with
  | none =>
    (ipv6Groups? (pieces ':' text)).bind fun gs => if gs.length = 8 then some gs else none
  | some (before, after) =>
    if before.contains '.' then none
    else
      (sideGroups? before).bind fun gs =>
        (sideGroups? after).bind fun hs =>
          if gs.length + hs.length ≤ 7 then
            some (gs ++ List.replicate (8 - gs.length - hs.length) 0 ++ hs)
          else none

/-- The length of the row of zeros at the head. -/
def zeroRun (gs : List Nat) : Nat := (gs.takeWhile (· = 0)).length

/-- The place and the length of the first longest row of zeros. -/
def longestZeros : List Nat → Nat × Nat
  | [] => (0, 0)
  | g :: gs =>
    let here := zeroRun (g :: gs)
    let (place, length) := longestZeros gs
    if length ≤ here then (0, here) else (place + 1, length)

/-- The text of an IPv6 address: its first longest gap of zeros is left out. -/
def ipv6Text (gs : List Nat) : List Char :=
  let text (l : List Nat) : List Char := joined [':'] (l.map (Nat.toDigits 16))
  let (place, length) := longestZeros gs
  if length < 2 then text gs
  else text (gs.take place) ++ [':', ':'] ++ text (gs.drop (place + length))

end HttpCalls.Url
