/-! Double-precision floating-point numbers as their 64-bit patterns, and the rounding of exact
fractions to them. Comparison goes through an integer key that orders all numbers but NaN;
rounding is to nearest, ties to the even neighbour, and goes through `BinaryFormat.round`. -/

namespace TypedQuery

/-- A double-precision number, as its bit pattern. -/
structure Binary64 where
  bits : UInt64
deriving DecidableEq, Repr

/-- A nonnegative fraction, rounded to the nearest integer, ties to the even one. -/
def roundHalfEven (numerator denominator : Nat) : Nat :=
  let quotient := numerator / denominator
  let twice := 2 * (numerator % denominator)
  if twice < denominator then quotient
  else if denominator < twice then quotient + 1
  else if quotient % 2 = 0 then quotient
  else quotient + 1

/-- A fraction divided by a power of two, as numerator and denominator. -/
def scaleDown (numerator denominator : Nat) (exponent : Int) : Nat × Nat :=
  if 0 ≤ exponent then (numerator, denominator * Nat.pow 2 exponent.toNat)
  else (numerator * Nat.pow 2 (-exponent).toNat, denominator)

/-- The exponent of the largest power of two that does not exceed a positive fraction. -/
def floorLog2 (numerator denominator : Nat) : Int :=
  let guess := (Nat.log2 numerator : Int) - (Nat.log2 denominator : Int)
  let scaled := scaleDown numerator denominator guess
  if scaled.2 ≤ scaled.1 then guess else guess - 1

/-- The shape of a binary format: how many bits a significand has, and the exponent of the
smallest positive number. -/
structure BinaryFormat where
  precision : Nat
  leastExponent : Int

def BinaryFormat.double : BinaryFormat := ⟨53, -1074⟩

def BinaryFormat.single : BinaryFormat := ⟨24, -149⟩

/-- A positive fraction rounded to a significand and the exponent of its unit. The significand has
at most `precision` bits, or is the next power of two where rounding carries. -/
def BinaryFormat.round (format : BinaryFormat) (numerator denominator : Nat) : Nat × Int :=
  let wanted := floorLog2 numerator denominator - ((format.precision : Int) - 1)
  let exponent := max wanted format.leastExponent
  let scaled := scaleDown numerator denominator exponent
  (roundHalfEven scaled.1 scaled.2, exponent)

namespace Binary64

/-- The pattern of positive infinity, and the bound below which patterns without their sign bit
are finite numbers. -/
def infinityMagnitude : Nat := 0x7FF0000000000000

def signWeight : Nat := 0x8000000000000000

def isNegative (number : Binary64) : Bool :=
  Nat.ble signWeight number.bits.toNat

/-- The bit pattern without its sign bit; it grows with the absolute value. -/
def magnitude (number : Binary64) : Nat :=
  number.bits.toNat % signWeight

/-- The pattern is none of a number. -/
def isNaN (number : Binary64) : Bool :=
  Nat.blt infinityMagnitude number.magnitude

/-- The number is infinite, of either sign. -/
def isInfinite (number : Binary64) : Bool :=
  number.magnitude == infinityMagnitude

/-- The pattern with the given sign and magnitude. -/
def ofMagnitude (negative : Bool) (magnitude : Nat) : Binary64 :=
  ⟨UInt64.ofNat (if negative then signWeight + magnitude else magnitude)⟩

/-- An integer that orders all numbers but NaN; the two zeros share it. -/
def key (number : Binary64) : Int :=
  if number.isNegative then -(number.magnitude : Int) else (number.magnitude : Int)

/-- The order of two numbers; a NaN has no order to anything. -/
def compare? (left right : Binary64) : Option Ordering :=
  if left.isNaN || right.isNaN then none else some (compare left.key right.key)

/-- A finite number is its significand times two to the exponent of its unit. -/
def significand (number : Binary64) : Nat :=
  let fraction := number.magnitude % Nat.pow 2 52
  if number.magnitude < Nat.pow 2 52 then fraction else fraction + Nat.pow 2 52

/-- The exponent of the unit of a finite number's significand. -/
def unitExponent (number : Binary64) : Int :=
  max 1 ((number.magnitude / Nat.pow 2 52 : Nat) : Int) - 1075

/-- The fraction with the given sign, rounded; what is too large becomes infinite. -/
def ofFraction (negative : Bool) (numerator denominator : Nat) : Binary64 :=
  if numerator = 0 then ofMagnitude negative 0
  else
    let rounded := BinaryFormat.double.round numerator denominator
    let magnitude := (rounded.2 + 1074).toNat * Nat.pow 2 52 + rounded.1
    ofMagnitude negative (min magnitude infinityMagnitude)

/-- An integer, rounded. -/
def ofInt (value : Int) : Binary64 :=
  ofFraction (decide (value < 0)) value.natAbs 1

/-- The absolute value of a finite number as an exact fraction. -/
def fraction (number : Binary64) : Nat × Nat :=
  scaleDown number.significand 1 (-number.unitExponent)

/-- The number rounded to single precision, what is too large for it becoming infinite. -/
def toSingle (number : Binary64) : Binary64 :=
  if infinityMagnitude ≤ number.magnitude || number.magnitude == 0 then number
  else
    let rounded := BinaryFormat.single.round number.fraction.1 number.fraction.2
    let widened := scaleDown rounded.1 1 (-rounded.2)
    if widened.2 * Nat.pow 2 128 ≤ widened.1 then ofMagnitude number.isNegative infinityMagnitude
    else ofFraction number.isNegative widened.1 widened.2

end Binary64

end TypedQuery
