/-
Binary floating-point numbers as bit patterns with exact values.

A format fixes how many bits its significand and its exponent have.  A pattern without
its sign bit, a magnitude, stands for a whole number of `units`, the distance between
the smallest numbers of the format, so every comparison and every rounding here is
integer arithmetic.  `Format.nearest` is the rounding of a quotient of naturals to the
nearest magnitude, a tie going to the even pattern; reading decimals, changing formats
and dividing are all instances of it.
-/

namespace WrenchLink

attribute [local instance (high)] instPowNat

def divideToEven (num den : Nat) : Nat :=
  let quotient := num / den
  let remainder := num % den
  if 2 * remainder < den then quotient
  else if den < 2 * remainder then quotient + 1
  else quotient + quotient % 2

structure Format where
  /-- Bits of the significand, the leading one included. -/
  precision : Nat
  exponentBits : Nat
  deriving DecidableEq, Repr

namespace Format

/-- Magnitudes that share their exponent number as many as this, and so do the numbers
below the least of the full precision. -/
def binade (f : Format) : Nat := 2 ^ (f.precision - 1)

/-- There are `2 ^ f.scale` units in one. -/
def scale (f : Format) : Nat := 2 ^ (f.exponentBits - 1) + f.precision - 3

def infinity (f : Format) : Nat := (2 ^ f.exponentBits - 1) * f.binade

/-- The magnitude of the quiet pattern that is not a number. -/
def notANumber (f : Format) : Nat := f.infinity + f.binade / 2

def signBit (f : Format) : Nat := 2 ^ f.exponentBits * f.binade

def units (f : Format) (magnitude : Nat) : Nat :=
  let exponent := magnitude / f.binade
  let fraction := magnitude % f.binade
  if exponent = 0 then fraction else (f.binade + fraction) * 2 ^ (exponent - 1)

/-- The magnitude nearest to `num / den`, a tie going to the even pattern and values
beyond the largest finite one to infinity.  Patterns count upwards within a binade and
on into the next, so a carry out of the significand needs no case of its own. -/
def nearest (f : Format) (num den : Nat) : Nat :=
  let scaled := num * 2 ^ f.scale
  let shift := Nat.log2 (scaled / den) + 1 - f.precision
  min (shift * f.binade + divideToEven scaled (den * 2 ^ shift)) f.infinity

end Format

def single : Format := ⟨24, 8⟩

def double : Format := ⟨53, 11⟩

/-- A number in single precision, told apart by its pattern: zeros keep their sign and
patterns that are not numbers their payload. -/
structure Binary32 where
  bits : UInt32
  deriving DecidableEq, Repr, Inhabited

/-- A number in double precision, told apart by its pattern. -/
structure Binary64 where
  bits : UInt64
  deriving DecidableEq, Repr, Inhabited

namespace Binary64

def magnitude (x : Binary64) : Nat := x.bits.toNat % double.signBit

def isNegative (x : Binary64) : Bool := double.signBit ≤ x.bits.toNat

def isNaN (x : Binary64) : Bool := double.infinity < x.magnitude

def ofMagnitude (negative : Bool) (magnitude : Nat) : Binary64 :=
  ⟨UInt64.ofNat ((if negative then double.signBit else 0) + magnitude)⟩

end Binary64

namespace Binary32

def magnitude (x : Binary32) : Nat := x.bits.toNat % single.signBit

def isNegative (x : Binary32) : Bool := single.signBit ≤ x.bits.toNat

def isNaN (x : Binary32) : Bool := single.infinity < x.magnitude

def isFinite (x : Binary32) : Bool := x.magnitude < single.infinity

def ofMagnitude (negative : Bool) (magnitude : Nat) : Binary32 :=
  ⟨UInt32.ofNat ((if negative then single.signBit else 0) + magnitude)⟩

/-- The signed value in units, infinities counting as the first power of two beyond the
finite numbers. -/
def value (x : Binary32) : Int :=
  if x.isNegative then -(single.units x.magnitude : Int) else single.units x.magnitude

/-- The order of values; nothing compares with a pattern that is not a number. -/
def le (x y : Binary32) : Bool :=
  !x.isNaN && !y.isNaN && x.value ≤ y.value

/-- Equality of values: both zeros are equal, and a pattern that is not a number equals
nothing. -/
def valueEq (x y : Binary32) : Bool := x.le y && y.le x

def abs (x : Binary32) : Binary32 := ofMagnitude false x.magnitude

/-- The quotient by a positive natural number, rounded to nearest. -/
def divNat (x : Binary32) (divisor : Nat) : Binary32 :=
  if x.isFinite then
    ofMagnitude x.isNegative
      (single.nearest (single.units x.magnitude) (divisor * 2 ^ single.scale))
  else
    x

def ofInt (n : Int) : Binary32 := ofMagnitude (n < 0) (single.nearest n.natAbs 1)

def toBinary64 (x : Binary32) : Binary64 :=
  if x.isNaN then .ofMagnitude x.isNegative double.notANumber
  else if x.magnitude = single.infinity then .ofMagnitude x.isNegative double.infinity
  else .ofMagnitude x.isNegative (double.nearest (single.units x.magnitude) (2 ^ single.scale))

end Binary32

def Binary64.toBinary32 (x : Binary64) : Binary32 :=
  if x.isNaN then .ofMagnitude x.isNegative single.notANumber
  else if x.magnitude = double.infinity then .ofMagnitude x.isNegative single.infinity
  else .ofMagnitude x.isNegative (single.nearest (double.units x.magnitude) (2 ^ double.scale))

end WrenchLink
