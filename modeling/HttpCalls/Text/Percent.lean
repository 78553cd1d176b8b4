-- Percent encoding: a kept character stands for itself, and every octet of any
-- other character is written as `%` and two upper-case hexadecimal digits.
import HttpCalls.Text.Hex
import HttpCalls.Text.Utf8

namespace HttpCalls.Percent

/-- The triplet of one octet. -/
def triplet (b : UInt8) : List Char := ['%', Hex.upper (b.toNat / 16), Hex.upper (b.toNat % 16)]

/-- The triplets of a character. -/
def escaped (c : Char) : List Char := (String.utf8EncodeChar c).flatMap triplet

/-- Writes a text with only the characters of `keep` as they are. -/
def encode (keep : Char → Bool) (text : List Char) : List Char :=
  text.flatMap fun c => if keep c then [c] else escaped c

/-- The characters that no encoding changes: ASCII letters and digits and `-._~`. -/
def isUnreserved (c : Char) : Bool := c.isAlphanum || c = '-' || c = '.' || c = '_' || c = '~'

/-- The octets that a text with triplets stands for; a `%` without two digits stands for itself. -/
def decode : Bytes → Bytes
  | 0x25 :: a :: b :: rest =>
    match Hex.value? (Char.ofNat a.toNat), Hex.value? (Char.ofNat b.toNat) with
    | some high, some low => UInt8.ofNat (high * 16 + low) :: decode rest
    | _, _ => 0x25 :: decode (a :: b :: rest)
  | b :: rest => b :: decode rest
  | [] => []

end HttpCalls.Percent
