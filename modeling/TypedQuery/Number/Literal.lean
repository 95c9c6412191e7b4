import TypedQuery.Number.Binary64
import TypedQuery.Text.Decimal

/-! Decimal notation read as a double-precision number, correctly rounded: an optional sign, then
digits with an optional point and an optional exponent, or a name of infinity or of NaN. -/

namespace TypedQuery

open Text

/-- Digits times a power of ten. -/
structure DecimalLiteral where
  digits : List Char
  exponent : Int

namespace DecimalLiteral

/-- The part of a literal after the letter E; a literal without that letter has exponent zero. -/
def exponentPart? : List Char → Option Int
  | [] => some 0
  | letter :: rest => if letter = 'e' ∨ letter = 'E' then signed? rest else none

/-- Digits, optionally a point and more digits, optionally an exponent. A point may stand before
all digits or after all of them, but at least one digit is needed. -/
def read? (text : List Char) : Option DecimalLiteral :=
  let whole := text.takeWhile Char.isDigit
  let (fractional, tail) :=
    match text.dropWhile Char.isDigit with
    | '.' :: rest => (rest.takeWhile Char.isDigit, rest.dropWhile Char.isDigit)
    | rest => ([], rest)
  let digits := whole ++ fractional
  if digits.isEmpty then none
  else (exponentPart? tail).map (fun exponent => ⟨digits, exponent - fractional.length⟩)

/-- The literal, rounded. A literal beyond all finite numbers or below half of the smallest one is
recognised by its number of digits, so that no large power is computed for it. -/
def toBinary64 (literal : DecimalLiteral) (negative : Bool) : Binary64 :=
  let digits := literal.digits.dropWhile (· == '0')
  let scale := literal.exponent + digits.length
  if digits.isEmpty || decide (scale < -330) then Binary64.ofMagnitude negative 0
  else if 310 < scale then Binary64.ofMagnitude negative Binary64.infinityMagnitude
  else if 0 ≤ literal.exponent then
    Binary64.ofFraction negative (ofDigits digits * Nat.pow 10 literal.exponent.toNat) 1
  else Binary64.ofFraction negative (ofDigits digits) (Nat.pow 10 (-literal.exponent).toNat)

end DecimalLiteral

namespace Binary64

/-- The pattern that stands for every result that is not a number. -/
def nan : Binary64 := ⟨0x7FF8000000000000⟩

/-- A number without a sign: a name or a literal. Names count up to case. -/
def ofUnsignedText? (negative : Bool) (text : List Char) : Option Binary64 :=
  let name := text.map Char.toLower
  if name = ['i', 'n', 'f'] ∨ name = ['i', 'n', 'f', 'i', 'n', 'i', 't', 'y'] then
    some (ofMagnitude negative infinityMagnitude)
  else if name = ['n', 'a', 'n'] then some nan
  else (DecimalLiteral.read? text).map (fun literal => literal.toBinary64 negative)

def ofText? : List Char → Option Binary64
  | '-' :: rest => ofUnsignedText? true rest
  | '+' :: rest => ofUnsignedText? false rest
  | text => ofUnsignedText? false text

end Binary64

end TypedQuery
