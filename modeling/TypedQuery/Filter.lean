import TypedQuery.Text.Pattern
import TypedQuery.Text.Substring
import TypedQuery.Value

/-! Filters describe a condition as data, for stores that run queries of their own. A predicate is a
filter together with the test that decides the condition on items in memory. -/

namespace TypedQuery

/-- How a compared value must lie to the operand. -/
inductive CompareOp where
  | eq
  | ne
  | gt
  | gte
  | lt
  | lte
deriving DecidableEq, Repr

namespace CompareOp

/-- The order of field and operand is one of those asked for. -/
def allows (op : CompareOp) (ordering : Ordering) : Bool :=
  match op with
  | .eq => ordering == .eq
  | .ne => ordering != .eq
  | .gt => ordering == .gt
  | .gte => ordering != .lt
  | .lt => ordering == .lt
  | .lte => ordering != .gt

/-- The field satisfies the comparison with the operand. Equality takes null as a value of its
own; no order holds with null. -/
def holds (op : CompareOp) (field operand : Value) : Bool :=
  match op with
  | .eq => field.equals operand
  | .ne => !field.equals operand
  | _ =>
      match field.compare? operand with
      | some ordering => op.allows ordering
      | none => false

def name : CompareOp → String
  | .eq => "eq"
  | .ne => "ne"
  | .gt => "gt"
  | .gte => "gte"
  | .lt => "lt"
  | .lte => "lte"

end CompareOp

inductive TextOp where
  | contains
  | startsWith
  | endsWith
deriving DecidableEq, Repr

namespace TextOp

def holds (op : TextOp) (text needle : String) : Bool :=
  match op with
  | .contains => Text.contains text needle
  | .startsWith => Text.startsWith text needle
  | .endsWith => Text.endsWith text needle

def name : TextOp → String
  | .contains => "contains"
  | .startsWith => "startsWith"
  | .endsWith => "endsWith"

end TextOp

/-- A condition on the items of a type. -/
inductive Filter where
  | constant (value : Bool)
  | compare (path : String) (op : CompareOp) (operand : Value)
  | text (path : String) (op : TextOp) (needle : String)
  | like (path : String) (pattern : String)
  | isIn (path : String) (operands : List Value)
  /-- Some element of the collection at the path satisfies a condition of its own. -/
  | any (path : String) (filter : Filter)
  | not (filter : Filter)
  | and (left right : Filter)
  | or (left right : Filter)
  /-- A condition supplied by a hook, known by name only. -/
  | custom (name : String)
deriving DecidableEq, Repr

/-- A condition with the test that decides it. -/
structure Predicate (α : Type) where
  filter : Filter
  test : α → Bool

namespace Predicate

variable {α : Type}

def constant (value : Bool) : Predicate α :=
  ⟨.constant value, fun _ => value⟩

def custom (name : String) (test : α → Bool) : Predicate α :=
  ⟨.custom name, test⟩

def and (left right : Predicate α) : Predicate α :=
  ⟨.and left.filter right.filter, fun item => left.test item && right.test item⟩

def or (left right : Predicate α) : Predicate α :=
  ⟨.or left.filter right.filter, fun item => left.test item || right.test item⟩

def not (predicate : Predicate α) : Predicate α :=
  ⟨.not predicate.filter, fun item => !predicate.test item⟩

def negatedIf (negate : Bool) (predicate : Predicate α) : Predicate α :=
  if negate then predicate.not else predicate

/-- Some of the elements gathered from an item satisfies a condition of its own. -/
def any {β : Type} (path : String) (gather : α → List β) (inner : Predicate β) : Predicate α :=
  ⟨.any path inner.filter, fun item => (gather item).any inner.test⟩

end Predicate

end TypedQuery
