-- Hexadecimal digits, the numbers that digits spell, and the characters of such numbers.

namespace HttpCalls.Hex

/-- A digit, upper case. -/
def upper (n : Nat) : Char := if n < 10 then Char.ofNat (0x30 + n) else Char.ofNat (0x37 + n)

/-- A digit, lower case. -/
def lower (n : Nat) : Char := if n < 10 then Char.ofNat (0x30 + n) else Char.ofNat (0x57 + n)

/-- The value of a digit of either case. -/
def value? (c : Char) : Option Nat :=
  if '0' ≤ c ∧ c ≤ '9' then some (c.toNat - 0x30)
  else if 'A' ≤ c ∧ c ≤ 'F' then some (c.toNat - 0x37)
  else if 'a' ≤ c ∧ c ≤ 'f' then some (c.toNat - 0x57)
  else none

/-- The number with one more digit of a base behind it. -/
def pushDigit? (base n : Nat) (c : Char) : Option Nat :=
  (value? c).bind fun v => if v < base then some (n * base + v) else none

/-- The number that digits of a base spell; no digits are zero. -/
def number? (base : Nat) (ds : List Char) : Option Nat := ds.foldlM (pushDigit? base) 0

/-- The character whose number hexadecimal digits spell. -/
def char? (ds : List Char) : Option Char :=
  (number? 16 ds).bind fun n => if h : n.isValidChar then some (Char.ofNatAux n h) else none

end HttpCalls.Hex
