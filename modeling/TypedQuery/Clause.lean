import TypedQuery.Accessor
import TypedQuery.Filter
import TypedQuery.Operand

/-! One comparison on one path, compiled into a predicate. The checks come in a fixed order: the
path must resolve, the comparison must apply to the kind of value, the operands must be of the
right number, and each must denote a value. -/

namespace TypedQuery

/-- A comparison on a path, as sent by a client. -/
structure Clause where
  path : String
  comparison : Comparison
  tokens : List Token
  negate : Bool
deriving DecidableEq, Repr

def Clause.context (clause : Clause) : ClauseContext :=
  ⟨clause.path, clause.comparison, clause.negate⟩

namespace Comparison

def compareOp? : Comparison → Option CompareOp
  | .equal => some .eq
  | .notEqual => some .ne
  | .greaterThan => some .gt
  | .greaterThanOrEqual => some .gte
  | .lessThan => some .lt
  | .lessThanOrEqual => some .lte
  | _ => none

def textOp? : Comparison → Option TextOp
  | .contains => some .contains
  | .startsWith => some .startsWith
  | .endsWith => some .endsWith
  | _ => none

/-- The one token of a comparison of texts, which must not be null. -/
def requireText (comparison : Comparison) (token : Token) : Except Fault String :=
  match token with
  | some text => .ok text
  | none => .error (.invalid (.nullOperand comparison))

end Comparison

/-- A value read from items: what a comparison on it needs to know. -/
structure ReadValue (α : Type) where
  path : String
  kind : Kind
  nullable : Bool
  read : α → Value

namespace ReadValue

variable {α : Type}

/-- The value compares with the operand as the operator asks. -/
def compare (value : ReadValue α) (op : CompareOp) (operand : Value) : Predicate α :=
  ⟨.compare value.path op operand, fun item => op.holds (value.read item) operand⟩

def isIn (value : ReadValue α) (operands : List Value) : Predicate α :=
  ⟨.isIn value.path operands, fun item =>
    let field := value.read item
    operands.any (fun operand => field.equals operand)⟩

/-- The value is a text in which the needle occurs where it must. -/
def text (value : ReadValue α) (op : TextOp) (needle : String) : Predicate α :=
  ⟨.text value.path op needle, fun item =>
    match (value.read item).text? with
    | some text => op.holds text needle
    | none => false⟩

/-- The value is a text that the pattern matches. -/
def like (value : ReadValue α) (pattern : String) : Predicate α :=
  ⟨.like value.path pattern, fun item =>
    match (value.read item).text? with
    | some text => Text.matchesPattern pattern text
    | none => false⟩

/-- The value lies within two bounds, the bounds included; equal bounds leave one value. -/
def between (value : ReadValue α) (low high : Value) : Predicate α :=
  if low.same high then value.compare .eq low
  else (value.compare .gte low).and (value.compare .lte high)

def single (value : ReadValue α) (comparison : Comparison) (tokens : List Token)
    : Except Fault (Predicate α) := do
  comparison.checkSingle value.kind.family
  comparison.checkCount tokens.length
  let token := tokens.head?.join
  match comparison.textOp? with
  | some op => return value.text op (← comparison.requireText token)
  | none =>
      if comparison = .like then
        return value.like (← comparison.requireText token)
      else
        match comparison.compareOp? with
        | some op => return value.compare op (← value.kind.convert value.nullable token)
        | none => throw (.invalid (.notSingleValue comparison))

/-- A comparison of the value with the operands that the tokens denote. -/
def predicate (value : ReadValue α) (comparison : Comparison) (tokens : List Token)
    : Except Fault (Predicate α) := do
  comparison.checkFamily value.kind.family
  match comparison with
  | .isIn => return value.isIn (← value.kind.convertAll value.nullable tokens)
  | .notIn => return (value.isIn (← value.kind.convertAll value.nullable tokens)).not
  | .between =>
      comparison.checkCount tokens.length
      match ← value.kind.convertAll value.nullable tokens with
      | [low, high] => return value.between low high
      | _ => throw (.invalid .missingBounds)
  | _ => value.single comparison tokens

end ReadValue

/-- A comparison on the value at a path, or on those of the elements of a collection, of which one
must satisfy it. -/
def Target.predicate {schema : Schema} (comparison : Comparison) (tokens : List Token)
    : {owner : schema.Ty} → String → Target schema owner
      → Except Fault (Predicate (schema.Item owner))
  | _, path, .value kind nullable read =>
      ReadValue.predicate ⟨path, kind, nullable, read⟩ comparison tokens
  | _, _, .elements path _ gather elementPath target => do
      if comparison = .between then comparison.checkCount tokens.length
      return Predicate.any path gather (← target.predicate comparison tokens elementPath)

namespace Clause

/-- The predicate of a clause, before its negation. -/
def positive (schema : Schema) (owner : schema.Ty) (clause : Clause)
    : Except Fault (Predicate (schema.Item owner)) := do
  let accessor ← Accessor.resolve schema owner clause.path
  accessor.target.predicate clause.comparison clause.tokens accessor.path

def compile (schema : Schema) (owner : schema.Ty) (clause : Clause)
    : Except QueryError (Predicate (schema.Item owner)) :=
  match clause.positive schema owner with
  | .ok predicate => .ok (predicate.negatedIf clause.negate)
  | .error fault => .error (QueryError.inClause clause.context (.faulty fault none))

/-- The clause that keeps the items whose key is one of the identifiers. -/
def ofIds (key : String) (ids : List String) : Clause :=
  ⟨key, .isIn, ids.map some, false⟩

end Clause

end TypedQuery
