/-! Readers take what they know from the start of a text and give back the rest. A text is read as
a whole when no rest is left. -/

namespace TypedQuery.Text

/-- A reader of part of a text: what was read, and the rest. -/
abbrev Reader (α : Type) := StateT (List Char) Option α

namespace Reader

/-- The value read when the reader takes the whole text. -/
def whole {α : Type} (reader : Reader α) (text : List Char) : Option α :=
  match reader.run text with
  | some (value, []) => some value
  | _ => none

def character (wanted : Char) : Reader Unit := fun text =>
  match text with
  | first :: rest => if first = wanted then some ((), rest) else none
  | [] => none

/-- At least one digit and at most the given number of them. -/
def digitsUpTo (most : Nat) : Reader (List Char) := fun text =>
  let digits := (text.take most).takeWhile Char.isDigit
  if digits.isEmpty then none else some (digits, text.drop digits.length)

end Reader

end TypedQuery.Text
