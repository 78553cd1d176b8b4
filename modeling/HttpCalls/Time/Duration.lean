-- Lengths of time, in whole nanoseconds, and their short text: a decimal number of
-- the largest unit that makes its whole part at least one.
import HttpCalls.Decimal.Shortest

namespace HttpCalls

/-- A length of time. -/
structure Duration where
  nanos : Nat
deriving DecidableEq, Repr, Inhabited

namespace Duration

/-- The nanoseconds of a second. -/
def second : Nat := 1000000000

/-- So many seconds. -/
def ofSeconds (n : Nat) : Duration := ⟨n * second⟩

/-- The digits of `part` as the decimals of a unit of `10 ^ width`, without zeros at the end. -/
def decimals (part width : Nat) : List Char :=
  let ds := Decimal.digits part
  let padded := List.replicate (width - ds.length) '0' ++ ds
  let kept := (padded.reverse.dropWhile (· = '0')).reverse
  if kept.isEmpty then [] else '.' :: kept

/-- A number of units of `10 ^ width` nanoseconds. -/
def inUnits (nanos width : Nat) (unit : String) : String :=
  String.ofList (Decimal.digits (nanos / 10 ^ width) ++ decimals (nanos % 10 ^ width) width) ++ unit

/-- The short text of a length of time. -/
def short (d : Duration) : String :=
  if second ≤ d.nanos then inUnits d.nanos 9 "s"
  else if 1000000 ≤ d.nanos then inUnits d.nanos 6 "ms"
  else if 1000 ≤ d.nanos then inUnits d.nanos 3 "µs"
  else String.ofList (Decimal.digits d.nanos) ++ "ns"

end Duration

end HttpCalls
