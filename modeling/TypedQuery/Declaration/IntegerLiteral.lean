import TypedQuery.Declaration.Lexeme

/-! Integer literals as programs write them: in base ten, or after a zero and a letter in base
sixteen, eight or two, with underscores anywhere among the digits and an optional suffix. -/

namespace TypedQuery.Declaration

/-- The value of a digit in a base. Letters are digits in base sixteen only; a digit that is too
large for the base is no digit of anything. -/
inductive LiteralDigit where
  | digit (value : Nat)
  | tooLarge
  | other

/-- What a character is among the digits of a base. -/
def literalDigit (base : Nat) (character : Char) : LiteralDigit :=
  let value? : Option Nat :=
    if character.isDigit then some (character.toNat - 48)
    else if 10 < base ∧ 'a' ≤ character ∧ character ≤ 'f' then some (character.toNat - 87)
    else if 10 < base ∧ 'A' ≤ character ∧ character ≤ 'F' then some (character.toNat - 55)
    else none
  match value? with
  | none => .other
  | some value => if value < base then .digit value else .tooLarge

/-- A literal in base ten is a floating-point literal if these characters follow an E in it. -/
def isExponent (rest : List Char) : Bool :=
  (rest.takeWhile (fun character => character.isDigit || character == '_')).any Char.isDigit

/-- The value of a literal's digits, up to its end or its suffix. -/
def literalValue? (base : Nat) : (value : Option Nat) → List Char → Option Nat
  | value, [] => value
  | value, character :: rest =>
      match literalDigit base character with
      | .digit digit => literalValue? base (some (base * value.getD 0 + digit)) rest
      | .tooLarge => none
      | .other =>
          if character = '_' then literalValue? base value rest
          else if base = 10 ∧ (character = 'e' ∨ character = 'E') ∧ isExponent rest then none
          else value

/-- The number that the characters of a literal denote. -/
def numberValue? : List Char → Option Nat
  | '0' :: 'x' :: digits => literalValue? 16 none digits
  | '0' :: 'o' :: digits => literalValue? 8 none digits
  | '0' :: 'b' :: digits => literalValue? 2 none digits
  | digits => literalValue? 10 none digits

/-- The lexemes without the attributes and documentation before them. -/
def withoutAttributes : List Lexeme → List Lexeme
  | .documentation :: rest => withoutAttributes rest
  | .mark '#' :: .opening .square :: rest => withoutAttributes rest
  | lexemes => lexemes

/-- The number that an integer literal denotes. Attributes may stand before it. -/
def integerLiteral? (source : String) : Option Nat :=
  match withoutAttributes (outline source) with
  | [.number digits] => numberValue? digits
  | _ => none

end TypedQuery.Declaration
