/-! Sets of characters given as inclusive ranges of code points, the form in which character
properties are tabulated. -/

namespace TypedQuery.Text

/-- An inclusive range of code points. -/
abbrev CodeRange := Nat × Nat

/-- The code point lies within the bounds of the range. -/
def CodeRange.contains (range : CodeRange) (code : Nat) : Bool :=
  Nat.ble range.1 code && Nat.ble code range.2

def inRanges (ranges : List CodeRange) (character : Char) : Bool :=
  ranges.any (fun range => CodeRange.contains range character.toNat)

end TypedQuery.Text
