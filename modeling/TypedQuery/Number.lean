import TypedQuery.Number.Literal

/-! Numbers of the three representations that properties have. Integers compare exactly, whatever
their representation; a comparison with a floating-point number goes through floating point. -/

namespace TypedQuery

/-- A number in one of the representations of a property. -/
inductive Number where
  | signed (value : Int64)
  | unsigned (value : UInt64)
  | float (value : Binary64)
deriving DecidableEq, Repr

namespace Number

/-- The number in floating point, rounded where it has too many digits. -/
def toBinary64 : Number → Binary64
  | .signed value => Binary64.ofInt value.toInt
  | .unsigned value => Binary64.ofInt value.toNat
  | .float value => value

/-- The number is no number at all. -/
def isNaN : Number → Bool
  | .float value => value.isNaN
  | _ => false

/-- The order of two numbers. A negative integer is below every unsigned one, so only two
nonnegative words are ever compared as words. -/
def compare? : Number → Number → Option Ordering
  | .signed left, .signed right => some (compare left right)
  | .unsigned left, .unsigned right => some (compare left right)
  | .signed left, .unsigned right =>
      some (if left < 0 then .lt else compare left.toUInt64 right)
  | .unsigned left, .signed right =>
      some (if right < 0 then .gt else compare left right.toUInt64)
  | left, right => left.toBinary64.compare? right.toBinary64

/-- The order for sorting: NaN comes before every other number. -/
def sortCompare (left right : Number) : Ordering :=
  match left.isNaN, right.isNaN with
  | true, true => .eq
  | true, false => .lt
  | false, true => .gt
  | false, false => (left.compare? right).getD .eq

/-- The numbers have one representation and one value; the two zeros are one value, and NaN is
not even the same as itself. -/
def same : Number → Number → Bool
  | .signed left, .signed right => left == right
  | .unsigned left, .unsigned right => left == right
  | .float left, .float right => left.compare? right == some .eq
  | _, _ => false

/-- The left number is smaller. -/
def less (left right : Number) : Bool :=
  left.compare? right == some .lt

end Number

end TypedQuery
