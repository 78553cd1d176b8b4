-- Punycode: names of any characters written with letters, digits and hyphens. The
-- plain characters stand first; digits in a mixed base then tell where the others
-- go.

namespace HttpCalls.Url.Punycode

/-- The digit of a value below 36: letters first. -/
def digit (n : Nat) : Char := if n < 26 then Char.ofNat (0x61 + n) else Char.ofNat (0x16 + n)

/-- The value of a digit. -/
def digitValue? (c : Char) : Option Nat :=
  if 'a' ≤ c ∧ c ≤ 'z' then some (c.toNat - 0x61)
  else if 'A' ≤ c ∧ c ≤ 'Z' then some (c.toNat - 0x41)
  else if '0' ≤ c ∧ c ≤ '9' then some (c.toNat - 0x16)
  else none

/-- How often a distance is divided until it is small, and what is left. -/
def shrink (delta : Nat) (k : Nat) : Nat × Nat :=
  if _h : 455 < delta then shrink (delta / 35) (k + 36) else (delta, k)
termination_by delta
decreasing_by omega

/-- The next bias after a distance. -/
def adapt (delta count : Nat) (first : Bool) : Nat :=
  let delta := if first then delta / 700 else delta / 2
  let (delta, k) := shrink (delta + delta / count) 0
  k + 36 * delta / (delta + 38)

/-- The threshold of a digit at a place. -/
def threshold (k bias : Nat) : Nat := if k ≤ bias then 1 else if bias + 26 ≤ k then 26 else k - bias

/-- The digits of a distance; the last number bounds how many there are. -/
def writeDistance (bias : Nat) (k q : Nat) : Nat → List Char
  | 0 => []
  | bound + 1 =>
    let t := threshold k bias
    if q < t then [digit q]
    else digit (t + (q - t) % (36 - t)) :: writeDistance bias (k + 36) ((q - t) / (36 - t)) bound

/-- One pass over the text for the characters of one code point. -/
def encodePass (n : Nat) : List Char → (delta bias handled : Nat) → (first : Bool) →
    List Char × Nat × Nat × Nat × Bool
  | [], delta, bias, handled, first => ([], delta, bias, handled, first)
  | c :: rest, delta, bias, handled, first =>
    if c.toNat < n then encodePass n rest (delta + 1) bias handled first
    else if c.toNat = n then
      let out := writeDistance bias 36 delta 64
      let (more, state) := encodePass n rest 0 (adapt delta (handled + 1) first) (handled + 1) false
      (out ++ more, state)
    else encodePass n rest delta bias handled first

/-- All passes, from the least code point not yet written up; the last number bounds them. -/
def encodeFrom (text : List Char) (n delta bias handled : Nat) (first : Bool) : Nat → List Char
  | 0 => []
  | bound + 1 =>
    match (text.filter (n ≤ ·.toNat)).map Char.toNat with
    | [] => []
    | m :: ms =>
      let next := ms.foldl min m
      let delta := delta + (next - n) * (handled + 1)
      let (out, delta, bias, handled, first) := encodePass next text delta bias handled first
      out ++ encodeFrom text (next + 1) (delta + 1) bias handled first bound

/-- The encoded form of a text. -/
def encode (text : List Char) : List Char :=
  let plain := text.filter (·.toNat < 0x80)
  let head := if plain.isEmpty then [] else plain ++ ['-']
  head ++ encodeFrom text 0x80 0 72 plain.length true (text.length + 1)

/-- Reads one distance; gives it with the digits behind it. -/
def readDistance (bias : Nat) (k weight i : Nat) : List Char → Option (Nat × List Char)
  | [] => none
  | c :: rest =>
    (digitValue? c).bind fun d =>
      let i := i + d * weight
      let t := threshold k bias
      if d < t then some (i, rest) else readDistance bias (k + 36) (weight * (36 - t)) i rest

/-- Reads all distances and places their characters; the last number bounds them. -/
def decodeFrom (out : List Char) (n i bias : Nat) (first : Bool) (ds : List Char) :
    Nat → Option (List Char)
  | 0 => none
  | bound + 1 =>
    if ds.isEmpty then some out
    else
      (readDistance bias 36 1 i ds).bind fun (j, rest) =>
        let count := out.length + 1
        let n := n + j / count
        let place := j % count
        if h : n.isValidChar then
          decodeFrom (out.take place ++ Char.ofNatAux n h :: out.drop place) n (place + 1)
            (adapt (j - i) count first) false rest bound
        else none

/-- The text of an encoded form. -/
def decode? (encoded : List Char) : Option (List Char) :=
  let tail := (encoded.reverse.takeWhile (· ≠ '-')).reverse
  let head := encoded.take (encoded.length - tail.length)
  decodeFrom head.dropLast 0x80 0 72 true tail (encoded.length + 1)

end HttpCalls.Url.Punycode
