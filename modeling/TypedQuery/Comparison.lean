import TypedQuery.Kind

/-! The comparisons a clause can make: which families of kinds they apply to, and how many
operands they take. -/

namespace TypedQuery

inductive Comparison where
  | equal
  | notEqual
  | greaterThan
  | greaterThanOrEqual
  | lessThan
  | lessThanOrEqual
  | contains
  | startsWith
  | endsWith
  | like
  | isIn
  | notIn
  | between
deriving DecidableEq, Repr, Inhabited

inductive Arity where
  /-- Exactly one. -/
  | single
  /-- Any number, none included. -/
  | list
  /-- Exactly two. -/
  | pair
deriving DecidableEq, Repr

/-- How a clause is joined to the one after it. -/
inductive Connector where
  | and
  | or
deriving DecidableEq, Repr, Inhabited

def Connector.name : Connector → String
  | .and => "and"
  | .or => "or"

namespace Comparison

def all : List Comparison :=
  [.equal, .notEqual, .greaterThan, .greaterThanOrEqual, .lessThan, .lessThanOrEqual, .contains,
    .startsWith, .endsWith, .like, .isIn, .notIn, .between]

def isTextual : Comparison → Bool
  | .contains | .startsWith | .endsWith | .like => true
  | _ => false

/-- The comparison asks for the order of two values. -/
def isOrdering : Comparison → Bool
  | .greaterThan | .greaterThanOrEqual | .lessThan | .lessThanOrEqual => true
  | _ => false

def isMembership : Comparison → Bool
  | .isIn | .notIn => true
  | _ => false

def arity : Comparison → Arity
  | .isIn | .notIn => .list
  | .between => .pair
  | _ => .single

/-- The name of a comparison in arguments and messages. -/
def name : Comparison → String
  | .equal => "equal"
  | .notEqual => "notEqual"
  | .greaterThan => "greaterThan"
  | .greaterThanOrEqual => "greaterThanOrEqual"
  | .lessThan => "lessThan"
  | .lessThanOrEqual => "lessThanOrEqual"
  | .contains => "contains"
  | .startsWith => "startsWith"
  | .endsWith => "endsWith"
  | .like => "like"
  | .isIn => "in"
  | .notIn => "notIn"
  | .between => "between"

/-- The comparison may be made on values of the family. Texts have no order and ranges here. -/
def appliesTo (comparison : Comparison) : Family → Bool
  | .text => !comparison.isOrdering && comparison != .between
  | .ordered => !comparison.isTextual
  | .equatable => !comparison.isTextual && !comparison.isOrdering && comparison != .between

/-- The comparison takes this number of operands. -/
def accepts (comparison : Comparison) (count : Nat) : Bool :=
  match comparison.arity with
  | .list => true
  | .single => count == 1
  | .pair => count == 2

end Comparison

end TypedQuery
