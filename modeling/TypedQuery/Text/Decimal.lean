/-! Decimal digits read as natural numbers and integers, and the decimal form of naturals with
leading zeros. -/

namespace TypedQuery.Text

/-- The number that a list of decimal digits denotes. -/
def ofDigits (digits : List Char) : Nat :=
  digits.foldl (fun total digit => 10 * total + (digit.toNat - 48)) 0

/-- One or more decimal digits and nothing else. -/
def natural? (text : List Char) : Option Nat :=
  if !text.isEmpty && text.all Char.isDigit then some (ofDigits text) else none

/-- Digits with an optional plus sign before them. -/
def unsigned? : List Char → Option Nat
  | '+' :: digits => natural? digits
  | text => natural? text

/-- Digits with an optional plus or minus sign before them. -/
def signed? : List Char → Option Int
  | '-' :: digits => (natural? digits).map (fun count => -(count : Int))
  | text => (unsigned? text).map Int.ofNat

/-- The decimal form, with zeros in front up to the given width. -/
def padded (width count : Nat) : String :=
  let digits := toString count
  String.ofList (List.replicate (width - digits.length) '0') ++ digits

end TypedQuery.Text
