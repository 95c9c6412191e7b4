import TypedQuery.Calendar.Reader
import TypedQuery.Error
import TypedQuery.Value

/-! The operands of a clause: whether the comparison takes them, and the values that their tokens
denote. A token is the text a client sent, or null. -/

namespace TypedQuery

abbrev Token := Option String

namespace Comparison

def checkFamily (comparison : Comparison) (family : Family) : Except Fault Unit :=
  if comparison.appliesTo family then .ok ()
  else .error (.invalid (.notApplicable comparison family))

/-- The comparison must apply to the family and take a single operand. -/
def checkSingle (comparison : Comparison) (family : Family) : Except Fault Unit := do
  comparison.checkFamily family
  if comparison.arity = .single then .ok () else .error (.invalid (.notSingle comparison))

/-- The comparison must take this number of operands. -/
def checkCount (comparison : Comparison) (count : Nat) : Except Fault Unit :=
  if comparison.accepts count then .ok () else .error (.invalid (.wrongCount comparison count))

end Comparison

namespace Kind

/-- A flag: true or false in any case, or one of the digits 1 and 0. -/
def flagOfText? (text : String) : Option Bool :=
  if Text.sameLetters text "true" || text == "1" then some true
  else if Text.sameLetters text "false" || text == "0" then some false
  else none

def wordOfText? (text : List Char) : Option UInt32 :=
  (Text.unsigned? text).bind (fun number =>
    if number < UInt32.size then some (UInt32.ofNat number) else none)

/-- A variant by its name up to case, else by its number. -/
def variantOfText? (enumeration : Enumeration) (text : List Char) : Option UInt32 :=
  match enumeration.numberOf? (String.ofList text) with
  | some number => some number
  | none => (wordOfText? text).filter enumeration.hasNumber

/-- A signed integer in the range of 64-bit words. -/
def integerOfText? (text : List Char) : Option Int64 :=
  (Text.signed? text).bind (fun number =>
    if Int64.minValue.toInt ≤ number ∧ number ≤ Int64.maxValue.toInt then some (Int64.ofInt number)
    else none)

/-- An unsigned integer in the range of 64-bit words. -/
def unsignedOfText? (text : List Char) : Option UInt64 :=
  (Text.unsigned? text).bind (fun number =>
    if number < UInt64.size then some (UInt64.ofNat number) else none)

/-- The value that a text denotes. Texts denote themselves, white space included; for every other
kind the white space around the text is ignored. NaN is no value of a clause. -/
def valueOfText? (kind : Kind) (raw : String) : Option Value :=
  let text := Text.trim raw.toList
  match kind with
  | .text => some (.text raw)
  | .integer => (integerOfText? text).map (fun number => .number (.signed number))
  | .unsigned => (unsignedOfText? text).map (fun number => .number (.unsigned number))
  | .float =>
      ((Binary64.ofText? text).filter (fun number => !number.isNaN)).map
        (fun number => .number (.float number))
  | .flag => (flagOfText? (String.ofList text)).map .flag
  | .instant => (Calendar.instantOfText? text).map .instant
  | .date => (Calendar.date? text).map .date
  | .uuid => (Uuid.ofText? text).map .uuid
  | .variant enumeration => (variantOfText? enumeration text).map .variant

/-- The value of a token. Null is a value of nullable properties and of all texts. -/
def convert (kind : Kind) (nullable : Bool) (token : Token) : Except Fault Value :=
  match token with
  | none =>
      if nullable || kind == .text then .ok .null else .error (.unconvertible none kind)
  | some raw =>
      match kind.valueOfText? raw with
      | some value => .ok value
      | none => .error (.unconvertible (some raw) kind)

/-- A token that is not null denotes what its text denotes. -/
theorem convert_some_eq_ok {kind : Kind} {nullable : Bool} {raw : String} {value : Value}
    : kind.convert nullable (some raw) = .ok value ↔ kind.valueOfText? raw = some value := by
  rw [convert]
  cases kind.valueOfText? raw <;> simp

/-- A token whose text denotes nothing is itself at fault, as it was sent. -/
theorem convert_some_eq_error {kind : Kind} {nullable : Bool} {raw : String} {fault : Fault}
    : kind.convert nullable (some raw) = .error fault
      ↔ kind.valueOfText? raw = none ∧ fault = .unconvertible (some raw) kind := by
  rw [convert]
  cases kind.valueOfText? raw <;> simp [eq_comm]

/-- The values of all tokens; the first token that has none is the fault. -/
def convertAll (kind : Kind) (nullable : Bool) (tokens : List Token)
    : Except Fault (List Value) :=
  tokens.mapM (kind.convert nullable)

end Kind

end TypedQuery
