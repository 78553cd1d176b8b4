-- Reading decimal numbers of the common form: a sign, digits with a point among them,
-- and an exponent.
import HttpCalls.Decimal.Binary64

namespace HttpCalls.Decimal

/-- The value of decimal digits. -/
def natural (ds : List Char) : Nat := ds.foldl (fun n c => n * 10 + (c.toNat - 0x30)) 0

/-- The number of at least one digit. -/
def natural? (ds : List Char) : Option Nat :=
  if !ds.isEmpty && ds.all Char.isDigit then some (natural ds) else none

/-- A sign in front of the rest: whether it is a minus. -/
def cutSign : List Char → Bool × List Char
  | '-' :: rest => (true, rest)
  | '+' :: rest => (false, rest)
  | rest => (false, rest)

/-- An exponent to the end, or nothing. -/
def exponent? : List Char → Option Int
  | [] => some 0
  | c :: rest =>
    if c = 'e' || c = 'E' then
      let (negative, ds) := cutSign rest
      (natural? ds).map fun n => if negative then -(n : Int) else n
    else none

/-- The number of `digits · 10 ^ e`. What is far beyond the format is infinite or zero. -/
def far (negative : Bool) (digits : List Char) (e : Int) : Binary64 :=
  let kept := digits.dropWhile (· = '0')
  let top := e + kept.length
  if kept.isEmpty || top < -400 then .zero negative
  else if 400 < top then .infinity negative
  else .ofDecimal negative (natural kept) e

/-- The number that a text spells. -/
def real? (text : List Char) : Option Binary64 :=
  let (negative, rest) := cutSign text
  let whole := rest.takeWhile Char.isDigit
  let rest := rest.dropWhile Char.isDigit
  let (fraction, rest) :=
    match rest with
    | '.' :: more => (more.takeWhile Char.isDigit, more.dropWhile Char.isDigit)
    | _ => ([], rest)
  if whole.isEmpty && fraction.isEmpty then none
  else
    (exponent? rest).map fun e => far negative (whole ++ fraction) (e - fraction.length)

end HttpCalls.Decimal
