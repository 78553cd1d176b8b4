-- The numbers of the format binary64, kept as their 64 bits. A finite number is
-- a whole number of units of some power of two. Arithmetic works on that exact
-- value and rounds once, to the nearest number and to the even one of two.
import HttpCalls.Powers

namespace HttpCalls

/-- A number of the format binary64. -/
structure Binary64 where
  /-- The sign, eleven bits of exponent and fifty-two bits of fraction. -/
  bits : UInt64
deriving DecidableEq, Repr, Inhabited

namespace Binary64

/-! ## The value of a number -/

/-- The sign bit. -/
def isNegative (x : Binary64) : Bool := x.bits.toNat / 2 ^ 63 = 1

/-- The number without its sign. -/
def magnitude (x : Binary64) : Nat := x.bits.toNat % 2 ^ 63

/-- Whether the number is neither infinite nor without a value. -/
def isFinite (x : Binary64) : Bool := x.magnitude / 2 ^ 52 < 0x7FF

/-- Whether the bits stand for no number. -/
def isNaN (x : Binary64) : Bool := 0x7FF * 2 ^ 52 < x.magnitude

/-- Whether this is one of the two zeros. -/
def isZero (x : Binary64) : Bool := x.magnitude = 0

/-- The whole number of units in the magnitude of a finite number. -/
def significand (x : Binary64) : Nat :=
  if x.magnitude / 2 ^ 52 = 0 then x.magnitude else x.magnitude % 2 ^ 52 + 2 ^ 52

/-- The power of two that one unit is. -/
def exponent (x : Binary64) : Int :=
  if x.magnitude / 2 ^ 52 = 0 then -1074 else (x.magnitude / 2 ^ 52 : Nat) - 1075

/-! ## Rounding an exact value -/

/-- The bits of a sign and a magnitude. -/
def ofMagnitude (negative : Bool) (magnitude : Nat) : Binary64 :=
  ⟨UInt64.ofNat (magnitude + if negative then 2 ^ 63 else 0)⟩

/-- The infinity of a sign. -/
def infinity (negative : Bool) : Binary64 := ofMagnitude negative (0x7FF * 2 ^ 52)

/-- The zero of a sign. -/
def zero (negative : Bool) : Binary64 := ofMagnitude negative 0

/-- The quotient of two whole numbers, to the nearest whole number, a half to the even one. -/
def roundDiv (num den : Nat) : Nat :=
  let q := num / den
  let twice := 2 * (num % den)
  if twice < den then q
  else if den < twice then q + 1
  else q + q % 2

/-- The fraction `num / den` of `2 ^ q`, as a fraction of two whole numbers. -/
def scaled (num den : Nat) (q : Int) : Nat × Nat :=
  if 0 ≤ q then (num, den * 2 ^ q.toNat) else (num * 2 ^ (-q).toNat, den)

/-- The number nearest to `num / den`, infinite when that lies beyond the largest one. -/
def ofRatio (negative : Bool) (num den : Nat) : Binary64 :=
  if num = 0 then zero negative
  else
    let guess := max ((Nat.log2 num : Int) - Nat.log2 den - 53) (-1074)
    let few := scaled num den guess
    let q := if 2 ^ 53 ≤ few.1 / few.2 then guess + 1 else guess
    let (n, d) := scaled num den q
    let units := roundDiv n d
    let magnitude := if units < 2 ^ 52 then units else (q + 1074).toNat * 2 ^ 52 + units
    if magnitude < 0x7FF * 2 ^ 52 then ofMagnitude negative magnitude else infinity negative

/-- The number nearest to a whole number. -/
def ofNat (n : Nat) : Binary64 := ofRatio false n 1

/-- The number nearest to `digits · 10 ^ e`. -/
def ofDecimal (negative : Bool) (digits : Nat) (e : Int) : Binary64 :=
  if 0 ≤ e then ofRatio negative (digits * 10 ^ e.toNat) 1
  else ofRatio negative digits (10 ^ (-e).toNat)

/-- The number with the other sign. -/
def neg (x : Binary64) : Binary64 := ofMagnitude (!x.isNegative) x.magnitude

/-- The product of two finite numbers. -/
def mul (x y : Binary64) : Binary64 :=
  let (n, d) := scaled (x.significand * y.significand) 1 (-(x.exponent + y.exponent))
  ofRatio (x.isNegative != y.isNegative) n d

/-- The quotient of two finite numbers, the second one not zero. -/
def div (x y : Binary64) : Binary64 :=
  let (n, d) := scaled x.significand y.significand (y.exponent - x.exponent)
  ofRatio (x.isNegative != y.isNegative) n d

end Binary64

end HttpCalls
