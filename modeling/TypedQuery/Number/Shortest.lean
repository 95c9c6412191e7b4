import TypedQuery.Number.Binary64
import TypedQuery.Text.Decimal

/-! The shortest decimal digits that read back as a given number, and the texts written with them.
Of all decimals with the fewest digits the one nearest to the number is taken. -/

namespace TypedQuery

/-- A decimal with its point after the first digit, times ten to the exponent. -/
structure Scientific where
  digits : List Char
  exponent : Int

namespace Binary64

/-- The reals that round to a positive number, in quarters of its unit: the number itself lies at
four times its significand, the bounds half a unit away. Below a power of two the lower neighbour
is only half as far. -/
structure RoundingInterval where
  unit : Nat × Nat
  lower : Nat
  middle : Nat
  upper : Nat
  closed : Bool

/-- The interval of a finite number other than zero. -/
def roundingInterval (number : Binary64) : RoundingInterval :=
  let significand := number.significand
  let narrow := significand == Nat.pow 2 52 && Nat.ble (Nat.pow 2 53) number.magnitude
  { unit := scaleDown 1 4 (-number.unitExponent)
    lower := 4 * significand - (if narrow then 1 else 2)
    middle := 4 * significand
    upper := 4 * significand + 2
    closed := significand % 2 == 0 }

def decimalFraction (count : Nat) (exponent : Int) : Nat × Nat :=
  if 0 ≤ exponent then (count * Nat.pow 10 exponent.toNat, 1)
  else (count, Nat.pow 10 (-exponent).toNat)

/-- Compares two fractions with positive denominators. -/
def compareFractions (left right : Nat × Nat) : Ordering :=
  compare (left.1 * right.2) (right.1 * left.2)

/-- The decimal reads back as the number of the interval. -/
def RoundingInterval.accepts (interval : RoundingInterval) (decimal : Nat × Nat) : Bool :=
  let bound (quarters : Nat) := (quarters * interval.unit.1, interval.unit.2)
  match compareFractions (bound interval.lower) decimal,
      compareFractions decimal (bound interval.upper) with
  | .lt, .lt => true
  | .eq, .lt => interval.closed
  | .lt, .eq => interval.closed
  | _, _ => false

/-- The exponent of the largest power of ten that does not exceed a positive fraction. The guess
from the binary exponent is at most one off. -/
def floorLog10 (numerator denominator : Nat) : Int :=
  let guess := Int.fdiv (floorLog2 numerator denominator * 30103) 100000
  let reaches (exponent : Int) :=
    compareFractions (decimalFraction 1 exponent) (numerator, denominator) != .gt
  if reaches (guess + 1) then guess + 1 else if reaches guess then guess else guess - 1

/-- The nearest decimal with the given number of digits that reads back, if one does; of two
equally near ones the larger. -/
def digitsWithin? (interval : RoundingInterval) (leading : Int) (count : Nat) : Option (Nat × Int) :=
  let exponent := leading - ((count : Int) - 1)
  let step := decimalFraction 1 exponent
  let numerator := interval.middle * interval.unit.1
  let quotient := numerator * step.2 / (interval.unit.2 * step.1)
  let remainder := numerator * step.2 % (interval.unit.2 * step.1)
  let below := interval.accepts (decimalFraction quotient exponent)
  let above := interval.accepts (decimalFraction (quotient + 1) exponent)
  if remainder = 0 ∨ (below ∧ (¬above ∨ 2 * remainder < interval.unit.2 * step.1)) then
    some (quotient, exponent)
  else if above then some (quotient + 1, exponent)
  else none

/-- The shortest digits of a finite number other than zero, without zeros at their end. -/
def shortest (number : Binary64) : Scientific :=
  let interval := number.roundingInterval
  let leading := floorLog10 (interval.middle * interval.unit.1) interval.unit.2
  match (List.range 17).findSome? (fun fewer => digitsWithin? interval leading (fewer + 1)) with
  | none => ⟨['0'], 0⟩
  | some (count, exponent) =>
      let digits := Nat.toDigits 10 count
      ⟨(digits.reverse.dropWhile (· == '0')).reverse, exponent + ((digits.length : Int) - 1)⟩

end Binary64

namespace Scientific

/-- Digits with the point after the given number of them, and at least one digit on each side. -/
def positional (number : Scientific) : List Char :=
  if number.exponent < 0 then
    '0' :: '.' :: List.replicate ((-number.exponent).toNat - 1) '0' ++ number.digits
  else
    let whole := number.exponent.toNat + 1
    let padded := number.digits ++ List.replicate (whole - number.digits.length) '0'
    let rest := padded.drop whole
    padded.take whole ++ '.' :: (if rest.isEmpty then ['0'] else rest)

/-- One digit before the point, no point after a single digit, and the exponent after the letter
e. -/
def exponential (number : Scientific) : List Char :=
  let mantissa :=
    match number.digits with
    | [] => []
    | [digit] => [digit]
    | digit :: rest => digit :: '.' :: rest
  mantissa ++ 'e' :: (toString number.exponent).toList

end Scientific

namespace Binary64

/-- The text of a number: positional from a ten-thousandth up to below ten to the sixteenth,
exponential elsewhere. -/
def toText (number : Binary64) : String :=
  if number.isNaN then "NaN"
  else
    let sign := if number.isNegative then ['-'] else []
    let body :=
      if number.isInfinite then ['i', 'n', 'f']
      else if number.magnitude = 0 then ['0', '.', '0']
      else
        let shortest := number.shortest
        if -4 ≤ shortest.exponent ∧ shortest.exponent < 16 then shortest.positional
        else shortest.exponential
    String.ofList (sign ++ body)

end Binary64

end TypedQuery
