import TypedQuery.Json
import TypedQuery.Number.Literal
import TypedQuery.Number.Shortest
import TypedQuery.Text.Reader

/-! JSON values read from text and written as text. The text written holds ASCII characters only,
and a floating-point number is written with the fewest digits that read back. -/

namespace TypedQuery.Json

open Text Text.Reader

/-- The text without the white space that JSON allows between its parts. -/
def skipBlank : Reader Unit := fun text =>
  some ((), text.dropWhile (fun character =>
    character == ' ' || character == '\t' || character == '\n' || character == '\r'))

def word (wanted : List Char) (value : Json) : Reader Json := fun text =>
  if wanted.isPrefixOf text then some (value, text.drop wanted.length) else none

/-- The number that four hexadecimal digits denote. -/
def hexWord : Reader Nat := fun text =>
  let digits := text.take 4
  if digits.length = 4 then
    let digit? (character : Char) : Option Nat :=
      if character.isDigit then some (character.toNat - 48)
      else if 'a' ≤ character ∧ character ≤ 'f' then some (character.toNat - 87)
      else if 'A' ≤ character ∧ character ≤ 'F' then some (character.toNat - 55)
      else none
    (digits.mapM digit?).map (fun digits =>
      (digits.foldl (fun total digit => 16 * total + digit) 0, text.drop 4))
  else none

/-- A code point after a backslash and the letter u. A code point beyond the first plane takes two
words, the second of which is introduced once more. -/
def escapedCodePoint : Reader Char := do
  let high ← hexWord
  if 0xD800 ≤ high ∧ high < 0xDC00 then
    character '\\'
    character 'u'
    let low ← hexWord
    if 0xDC00 ≤ low ∧ low < 0xE000 then
      pure (Char.ofNat (0x10000 + (high - 0xD800) * 0x400 + (low - 0xDC00)))
    else failure
  else if 0xDC00 ≤ high ∧ high < 0xE000 then failure
  else pure (Char.ofNat high)

/-- The character that a backslash and a letter stand for. -/
def escapedCharacter : Reader Char := fun text =>
  match text with
  | 'u' :: rest => escapedCodePoint rest
  | 'b' :: rest => some (Char.ofNat 8, rest)
  | 'f' :: rest => some (Char.ofNat 12, rest)
  | 'n' :: rest => some ('\n', rest)
  | 'r' :: rest => some ('\r', rest)
  | 't' :: rest => some ('\t', rest)
  | letter :: rest =>
      if letter = '\\' ∨ letter = '/' ∨ letter = Char.ofNat 0x22 then some (letter, rest) else none
  | [] => none

/-- The characters before the closing quotation mark, escapes as they are written, and what comes
after it. A quotation mark after a backslash does not close the text. -/
def quotedPart (read : List Char) : Reader (List Char)
  | [] => none
  | '\\' :: letter :: rest => quotedPart (letter :: '\\' :: read) rest
  | character :: rest =>
      if character = Char.ofNat 0x22 then some (read.reverse, rest)
      else quotedPart (character :: read) rest

def unescaped : (fuel : Nat) → (read written : List Char) → Option (List Char)
  | _, read, [] => some read.reverse
  | 0, _, _ => none
  | fuel + 1, read, '\\' :: rest =>
      (escapedCharacter rest).bind (fun (character, rest) => unescaped fuel (character :: read) rest)
  | fuel + 1, read, character :: rest => unescaped fuel (character :: read) rest

/-- The rest of a text after its opening quotation mark. -/
def textRest : Reader String := do
  let written ← quotedPart []
  match unescaped written.length [] written with
  | some characters => pure (String.ofList characters)
  | none => failure

/-- The value of a number's text: an integer if it has neither point nor exponent, fits into 64
bits and is not a negative zero. -/
def numberOfText? (text : List Char) : Option Json :=
  match signed? text with
  | some value =>
      if Int64.minValue.toInt ≤ value ∧ value < UInt64.size ∧ text ≠ ['-', '0'] then
        some (.integer value)
      else (Binary64.ofText? text).map .float
  | none => (Binary64.ofText? text).map .float

def number : Reader Json := fun text =>
  let isPart (character : Char) :=
    character.isDigit || ['+', '-', '.', 'e', 'E'].contains character
  (numberOfText? (text.takeWhile isPart)).map (fun json => (json, text.dropWhile isPart))

/-- The object with one more field; a field of the same name gives way. -/
def setField (fields : List (String × Json)) (name : String) (value : Json)
    : List (String × Json) :=
  fields.filter (fun field => field.1 != name) ++ [(name, value)]

mutual

def value : (fuel : Nat) → Reader Json
  | 0 => failure
  | fuel + 1 => do
      skipBlank
      match ← get with
      | 'n' :: _ => word ['n', 'u', 'l', 'l'] .null
      | 't' :: _ => word ['t', 'r', 'u', 'e'] (.bool true)
      | 'f' :: _ => word ['f', 'a', 'l', 's', 'e'] (.bool false)
      | '[' :: rest => do
          set rest
          skipBlank
          match ← get with
          | ']' :: rest => do
              set rest
              pure (.array [])
          | _ => itemsRest fuel []
      | first :: rest =>
          if first = Char.ofNat 0x22 then do
            set rest
            pure (.string (← textRest))
          else if first = Char.ofNat 0x7B then do
            set rest
            skipBlank
            match ← get with
            | [] => failure
            | next :: rest =>
                if next = Char.ofNat 0x7D then do
                  set rest
                  pure (.object [])
                else fieldsRest fuel []
          else number
      | [] => failure

/-- The rest of an array that has items left to read. -/
def itemsRest : (fuel : Nat) → (read : List Json) → Reader Json
  | 0, _ => failure
  | fuel + 1, read => do
      let item ← value fuel
      skipBlank
      match ← get with
      | ',' :: rest => do
          set rest
          itemsRest fuel (item :: read)
      | ']' :: rest => do
          set rest
          pure (.array (item :: read).reverse)
      | _ => failure

/-- The rest of an object that has fields left to read. -/
def fieldsRest : (fuel : Nat) → (read : List (String × Json)) → Reader Json
  | 0, _ => failure
  | fuel + 1, read => do
      skipBlank
      character (Char.ofNat 0x22)
      let name ← textRest
      skipBlank
      character ':'
      let json ← value fuel
      skipBlank
      match ← get with
      | ',' :: rest => do
          set rest
          fieldsRest fuel (setField read name json)
      | next :: rest =>
          if next = Char.ofNat 0x7D then do
            set rest
            pure (.object (setField read name json))
          else failure
      | [] => failure

end

def ofText? (text : String) : Option Json :=
  let characters := text.toList
  let reader : Reader Json := do
    let json ← value (characters.length + 1)
    skipBlank
    pure json
  reader.whole characters

/-- One word of a code point in four hexadecimal digits. -/
def writeWord (word : Nat) : List Char :=
  let digits := Nat.toDigits 16 word
  ['\\', 'u'] ++ List.replicate (4 - digits.length) '0' ++ digits

def writeCharacter (character : Char) : List Char :=
  let code := character.toNat
  if code = 0x22 ∨ code = 0x5C then ['\\', character]
  else if 0x20 ≤ code ∧ code < 0x7F then [character]
  else if code < 0x10000 then writeWord code
  else
    writeWord (0xD800 + (code - 0x10000) / 0x400) ++ writeWord (0xDC00 + (code - 0x10000) % 0x400)

def writeText (text : String) : String :=
  String.ofList (Char.ofNat 0x22 :: (text.toList.flatMap writeCharacter ++ [Char.ofNat 0x22]))

def writeFloat (number : Binary64) : String :=
  if number.isNaN || number.isInfinite then "null" else number.toText

mutual

def toText : Json → String
  | .null => "null"
  | .bool value => if value then "true" else "false"
  | .integer value => toString value
  | .float value => writeFloat value
  | .string text => writeText text
  | .array items => "[" ++ String.intercalate "," (itemTexts items) ++ "]"
  | .object fields => "\x7b" ++ String.intercalate "," (fieldTexts fields) ++ "\x7d"

def itemTexts : List Json → List String
  | [] => []
  | item :: rest => item.toText :: itemTexts rest

def fieldTexts : List (String × Json) → List String
  | [] => []
  | (name, value) :: rest => (writeText name ++ ":" ++ value.toText) :: fieldTexts rest

end

end TypedQuery.Json
