import TypedQuery.Text.CodeRange

/-! White space, and texts without the white space around them. -/

namespace TypedQuery.Text

/-- The characters with the property White_Space. -/
def blankRanges : List CodeRange :=
  [(0x09, 0x0D), (0x20, 0x20), (0x85, 0x85), (0xA0, 0xA0), (0x1680, 0x1680), (0x2000, 0x200A),
    (0x2028, 0x2029), (0x202F, 0x202F), (0x205F, 0x205F), (0x3000, 0x3000)]

def isBlank (character : Char) : Bool :=
  inRanges blankRanges character

/-- The text from its first character that is not white space. -/
def trimStart (text : List Char) : List Char :=
  text.dropWhile isBlank

/-- The text without the white space at its two ends. -/
def trim (text : List Char) : List Char :=
  (trimStart (trimStart text).reverse).reverse

/-- A text that starts with another character than white space keeps its start. -/
theorem trimStart_of_not_blank {character : Char} {rest : List Char}
    (solid : isBlank character = false)
    : trimStart (character :: rest) = character :: rest := by
  simp [trimStart, solid]

/-- The visible characters of ASCII are no white space, nor are the control characters after them. -/
theorem not_blank_of_visible {character : Char} (above : 32 < character.toNat)
    (below : character.toNat < 133)
    : isBlank character = false := by
  rw [← Bool.not_eq_true]
  simp only [isBlank, inRanges, blankRanges, List.any_cons, List.any_nil, CodeRange.contains,
    Bool.or_eq_true, Bool.and_eq_true, Nat.ble_eq, Bool.false_eq_true, or_false]
  omega

end TypedQuery.Text
