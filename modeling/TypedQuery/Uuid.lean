import TypedQuery.Text.Letters

/-! Universally unique identifiers: 128 bits, written in hexadecimal digits. -/

namespace TypedQuery

structure Uuid where
  bits : BitVec 128
deriving DecidableEq, Repr

namespace Uuid

/-- Identifiers are ordered by their bytes, the most significant first. -/
def compare (left right : Uuid) : Ordering :=
  Ord.compare left.bits.toNat right.bits.toNat

/-- The value of a hexadecimal digit of either case. -/
def hexDigit? (character : Char) : Option Nat :=
  if '0' ≤ character ∧ character ≤ '9' then some (character.toNat - 48)
  else if 'a' ≤ character ∧ character ≤ 'f' then some (character.toNat - 87)
  else if 'A' ≤ character ∧ character ≤ 'F' then some (character.toNat - 55)
  else none

/-- Exactly 32 hexadecimal digits. -/
def ofDigits? (text : List Char) : Option Uuid :=
  if text.length = 32 then
    (text.mapM hexDigit?).map (fun digits =>
      ⟨BitVec.ofNat 128 (digits.foldl (fun total digit => 16 * total + digit) 0)⟩)
  else none

/-- Hexadecimal digits in groups of 8, 4, 4, 4 and 12, with hyphens between them. -/
def ofHyphenated? (text : List Char) : Option Uuid :=
  if text.length = 36 ∧ [8, 13, 18, 23].all (fun place => text[place]? == some '-') then
    ofDigits? (text.take 8 ++ (text.drop 9).take 4 ++ (text.drop 14).take 4
      ++ (text.drop 19).take 4 ++ text.drop 24)
  else none

/-- The characters that introduce an identifier written as a uniform resource name. -/
def resourceName : List Char := ['u', 'r', 'n', ':', 'u', 'u', 'i', 'd', ':']

/-- The identifier that a text denotes: its digits alone, in groups with hyphens, and the groups
within braces or after the introduction of a resource name, which may be in any case. -/
def ofText? (text : List Char) : Option Uuid :=
  if text.length = 38 then
    if text.head? = some (Char.ofNat 0x7B) ∧ text.getLast? = some (Char.ofNat 0x7D) then
      ofHyphenated? (text.drop 1).dropLast
    else none
  else if text.length = 45 then
    if Text.lowerLetters (text.take 9) = resourceName then ofHyphenated? (text.drop 9) else none
  else if text.length = 36 then ofHyphenated? text
  else ofDigits? text

/-- The 32 digits, in lower case. -/
def digits (uuid : Uuid) : List Char :=
  let written := Nat.toDigits 16 uuid.bits.toNat
  List.replicate (32 - written.length) '0' ++ written

/-- The digits in groups with hyphens between them. -/
def toText (uuid : Uuid) : String :=
  let digits := uuid.digits
  String.ofList (digits.take 8 ++ '-' :: (digits.drop 8).take 4 ++ '-' :: (digits.drop 12).take 4
    ++ '-' :: (digits.drop 16).take 4 ++ '-' :: digits.drop 20)

end Uuid

end TypedQuery
