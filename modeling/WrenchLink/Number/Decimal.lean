/-
Decimal notation of numbers in double precision.

`Binary64.ofDecimal` reads digits and an exponent to the nearest number.
`Binary64.shortest` goes the other way: the fewest digits that read back to the same
number, of those the ones nearest to it, and of two as near the higher.
`Binary64.toDecimal` writes them positionally, however many zeros that takes.
-/
import WrenchLink.Number.Binary

namespace WrenchLink

attribute [local instance (high)] instPowNat

def decimalRatio (digits : Nat) (exponent : Int) : Nat × Nat :=
  if 0 ≤ exponent then (digits * 10 ^ exponent.toNat, 1)
  else (digits, 10 ^ (-exponent).toNat)

def digitCount (n : Nat) : Nat := (Nat.toDigits 10 n).length

/-- The magnitude in double precision nearest to `digits * 10 ^ exponent`.  Values of
more than 400 places before the point, or of more than 400 zeros behind it, are beyond
every finite number and below half the smallest, so no large power is ever formed. -/
def decimalMagnitude (digits : Nat) (exponent : Int) : Nat :=
  if digits = 0 then 0
  else if 400 < exponent + digitCount digits then double.infinity
  else if exponent + digitCount digits < -400 then 0
  else
    let (num, den) := decimalRatio digits exponent
    double.nearest num den

namespace Binary64

def ofDecimal (negative : Bool) (digits : Nat) (exponent : Int) : Binary64 :=
  ofMagnitude negative (decimalMagnitude digits exponent)

/-- The number of places `n` with `10 ^ (n - 1) ≤ num / den < 10 ^ n`, for a positive
quotient; at most `fuel` zeros are counted behind the point. -/
def places (num den : Nat) : Nat → Int
  | 0 => 0
  | fuel + 1 =>
    if den ≤ num then digitCount (num / den) else places (10 * num) den fuel - 1

/-- The decimals with unit `10 ^ exponent` next to `num / den` below and above, as
multiples of that unit, and whether the lower is the nearer one. -/
def neighbours (num den : Nat) (exponent : Int) : Nat × Nat × Bool :=
  let (unitNum, unitDen) := decimalRatio 1 exponent
  let n := num * unitDen
  let d := den * unitNum
  (n / d, n / d + 1, 2 * (n % d) < d)

/-- Tries decimals of `count` digits below `10 ^ top`, then of one more, until one reads
back to `magnitude`.  After the last round the exact value is written in full. -/
def shortestFrom (magnitude : Nat) (top : Int) : Nat → Nat → Nat × Int
  | _, 0 => (double.units magnitude * 5 ^ double.scale, -double.scale)
  | count, rounds + 1 =>
    let exponent := top - count
    let (low, high, lowNearer) :=
      neighbours (double.units magnitude) (2 ^ double.scale) exponent
    let lowHits := decimalMagnitude low exponent == magnitude
    let highHits := decimalMagnitude high exponent == magnitude
    if lowHits && (lowNearer || !highHits) then (low, exponent)
    else if highHits then (high, exponent)
    else shortestFrom magnitude top (count + 1) rounds

/-- The fewest digits, with the exponent of their last one, that read back to a positive
finite magnitude.  No digits at all come first: the decimal above is then the power of ten
`10 ^ top`.  Seventeen digits always read back. -/
def shortest (magnitude : Nat) : Nat × Int :=
  shortestFrom magnitude
    (places (double.units magnitude) (2 ^ double.scale) (double.scale + 1)) 0 18

end Binary64

/-- Positional notation of `digits * 10 ^ exponent`, with a fraction of at least one
place. -/
def positional (digits : Nat) (exponent : Int) : String :=
  let text := toString digits
  if 0 ≤ exponent then
    text ++ String.ofList (List.replicate exponent.toNat '0') ++ ".0"
  else
    let places := (-exponent).toNat
    let padded := List.replicate (places + 1 - text.length) '0' ++ text.toList
    String.ofList (padded.take (padded.length - places)) ++ "." ++
      String.ofList (padded.drop (padded.length - places))

/-- Decimal text that reads back to the same number: never an exponent, always a point.
The text of a pattern that is not a number drops its sign. -/
def Binary64.toDecimal (x : Binary64) : String :=
  let sign := if x.isNegative then "-" else ""
  if x.isNaN then "nan"
  else if x.magnitude = double.infinity then sign ++ "inf"
  else if x.magnitude = 0 then sign ++ "0.0"
  else
    let (digits, exponent) := Binary64.shortest x.magnitude
    sign ++ positional digits exponent

end WrenchLink
