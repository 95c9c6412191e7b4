import TypedQuery.Text.GraphemeExtend
import TypedQuery.Text.Printable

/-! Texts in quotation marks, as messages and descriptions show them. What cannot be seen, or
would attach to the quotation mark, is written by its code point. -/

namespace TypedQuery.Text

/-- The code point in hexadecimal digits within braces. -/
def codePointEscape (character : Char) : List Char :=
  ['\\', 'u', Char.ofNat 0x7B] ++ Nat.toDigits 16 character.toNat ++ [Char.ofNat 0x7D]

/-- The letters that stand for a missing part of a syllable and show nothing. -/
def isFiller (character : Char) : Bool :=
  [0x115F, 0x1160, 0x3164, 0xFFA0].contains character.toNat

/-- The marks in half width that extend the character before them, yet stand beside it. -/
def isHalfwidthMark (character : Char) : Bool :=
  [0xFF9E, 0xFF9F].contains character.toNat

/-- The character shows in a text as a character of its own. -/
def isVisible (character : Char) : Bool :=
  isPrintable character && !isFiller character
    && (!extendsGrapheme character || isHalfwidthMark character)

/-- How one character is written within quotation marks. -/
def escaped (character : Char) : List Char :=
  match character.toNat with
  | 0x00 => ['\\', '0']
  | 0x09 => ['\\', 't']
  | 0x0A => ['\\', 'n']
  | 0x0D => ['\\', 'r']
  | 0x22 => ['\\', Char.ofNat 0x22]
  | 0x5C => ['\\', '\\']
  | _ => if isVisible character then [character] else codePointEscape character

def quoted (text : String) : String :=
  String.ofList (Char.ofNat 0x22 :: (text.toList.flatMap escaped ++ [Char.ofNat 0x22]))

end TypedQuery.Text
