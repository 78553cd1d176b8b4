-- The fewest decimal digits that read back as a given binary64 number, and of
-- the digit strings of that length the nearest one. Beside it the ways to write
-- such digits out, with a point and with an exponent.
import HttpCalls.Decimal.Binary64

namespace HttpCalls.Decimal

/-! ## The digits -/

/-- The decimal digits of a whole number. -/
def digits (n : Nat) : List Char := Nat.toDigits 10 n

/-- The exact value of a finite number and the two ends of the reals that round to it,
over one denominator. -/
structure Span where
  low : Nat
  value : Nat
  high : Nat
  unit : Nat
  /-- Whether the ends themselves round to the number. -/
  closed : Bool

/-- The reals that round to a finite number. -/
def Span.of (x : Binary64) : Span :=
  let m := x.significand
  -- the number below is half as far away when the significand is the least one
  let below := if m = 2 ^ 52 && x.exponent > -1074 then 1 else 2
  let (f, unit) := if 0 ≤ x.exponent then (2 ^ x.exponent.toNat, 4) else (1, 4 * 2 ^ (-x.exponent).toNat)
  { low := (4 * m - below) * f, value := 4 * m * f, high := (4 * m + 2) * f, unit, closed := m % 2 = 0 }

/-- Whether `d · 10 ^ e` lies in the span. -/
def Span.holds (s : Span) (d : Nat) (e : Int) : Bool :=
  let point := if 0 ≤ e then d * 10 ^ e.toNat * s.unit else d * s.unit
  let scale := if 0 ≤ e then 1 else 10 ^ (-e).toNat
  if s.closed then s.low * scale ≤ point && point ≤ s.high * scale
  else s.low * scale < point && point < s.high * scale

/-- The least `k` with the value below `10 ^ k`. -/
def Span.magnitude (s : Span) : Int :=
  let k : Int := (digits s.value).length - (digits s.unit).length
  let reached :=
    if 0 ≤ k then s.unit * 10 ^ k.toNat ≤ s.value else s.unit ≤ s.value * 10 ^ (-k).toNat
  if reached then k + 1 else k

/-- The better one of the two neighbours of the value on the grid of `10 ^ e`, if it rounds back. -/
def Span.onGrid (s : Span) (e : Int) : Option Nat :=
  let num := if 0 ≤ e then s.value else s.value * 10 ^ (-e).toNat
  let den := if 0 ≤ e then s.unit * 10 ^ e.toNat else s.unit
  let d := num / den
  let twice := 2 * (num % den)
  let nearUp := den < twice || (den = twice && d % 2 = 1)
  match s.holds d e, s.holds (d + 1) e with
  | true, true => some (if nearUp then d + 1 else d)
  | true, false => some d
  | false, true => some (d + 1)
  | false, false => none

/-- The first grid, of `n`, `n + 1`, … digits, on which a neighbour rounds back. -/
def Span.search (s : Span) (k : Int) : (tries : Nat) → (n : Nat) → Nat × Int
  | 0, n => (s.value / s.unit, k - n)
  | tries + 1, n =>
    match s.onGrid (k - n) with
    | some d => (d, k - n)
    | none => s.search k tries (n + 1)

/-- A digit string and the place of its point: `0.d₁d₂… · 10 ^ point`. -/
structure Digits where
  digits : List Char
  point : Int
deriving DecidableEq, Repr

/-- The shortest digits of a finite number other than zero. -/
def shortest (x : Binary64) : Digits :=
  let s := Span.of x
  let (d, e) := s.search s.magnitude 17 1
  let ds := digits d
  let kept := (ds.reverse.dropWhile (· = '0')).reverse
  { digits := kept, point := ds.length + e }

/-! ## Writing them out -/

/-- The digits with a point; a whole number ends in `whole`. -/
def Digits.plain (d : Digits) (whole : List Char) : List Char :=
  let n := d.digits.length
  if d.point ≤ 0 then '0' :: '.' :: List.replicate (-d.point).toNat '0' ++ d.digits
  else if n ≤ d.point.toNat then d.digits ++ List.replicate (d.point.toNat - n) '0' ++ whole
  else d.digits.take d.point.toNat ++ '.' :: d.digits.drop d.point.toNat

/-- The digits with one of them before the point and an exponent with a sign. -/
def Digits.scientific (d : Digits) : List Char :=
  let e := d.point - 1
  let tail :=
    match d.digits with
    | [] => []
    | [c] => [c]
    | c :: rest => c :: '.' :: rest
  tail ++ 'e' :: (if e < 0 then '-' else '+') :: Decimal.digits e.natAbs

/-- A sign before the text of a magnitude. -/
def signed (x : Binary64) (text : List Char) : List Char := if x.isNegative then '-' :: text else text

/-- The text of a number in JSON: always with a point or an exponent, and with a point
from `1e-5` up to `1e16`. -/
def jsonText (x : Binary64) : List Char :=
  if !x.isFinite then "null".toList
  else if x.isZero then signed x "0.0".toList
  else
    let d := shortest x
    signed x (if -4 ≤ d.point && d.point ≤ 16 then d.plain ".0".toList else d.scientific)

/-- The text of a number in prose: never with an exponent, a whole number without a point. -/
def plainText (x : Binary64) : List Char :=
  if x.isNaN then "NaN".toList
  else if !x.isFinite then signed x "inf".toList
  else if x.isZero then signed x "0".toList
  else signed x ((shortest x).plain [])

end HttpCalls.Decimal
