import TypedQuery.Order
import TypedQuery.Where.Node

/-! Hooks through which an application takes part in compiling arguments, and the trace of the
calls they get. Hooks answer with a value or refuse in their own words; they have no state. -/

namespace TypedQuery

/-- Edits the nodes of a where tree before they are compiled. The edit of a node may replace its
children; `growth` bounds how many levels of groups edits put below the tree as it was sent. -/
structure Preprocessor where
  edit : Node → Except String Node
  growth : Nat := 0

/-- The hooks in effect when arguments are compiled. -/
structure Hooks (α : Type) where
  /-- Edits every node before it is compiled. -/
  preprocessor : Option Preprocessor := none
  /-- May supply the predicate of a node, whose negation and children are ignored then. -/
  provider : Option (Node → Except String (Option (Predicate α))) := none
  /-- May supply the comparison for a key; the flag tells whether it is the first key. -/
  sorter : Option (OrderKey → Bool → Except String (Option (SortKey α))) := none

/-- A call of a hook. -/
inductive HookEvent where
  | preprocess (path : String) (isGroup : Bool)
  | provide (path : String) (isGroup : Bool)
  | sort (path : String) (descending primary : Bool)
deriving DecidableEq, Repr

/-- The outcome of a computation that calls hooks, with the calls in the order they were made. A
failure ends the computation but keeps the calls made before it. -/
structure Traced (α : Type) where
  events : List HookEvent
  outcome : Except QueryError α

namespace Traced

variable {α β : Type}

def ofExcept (outcome : Except QueryError α) : Traced α :=
  ⟨[], outcome⟩

/-- One computation after the other, which is left out if the first fails. -/
def andThen (first : Traced α) (next : α → Traced β) : Traced β :=
  match first.outcome with
  | .ok value => ⟨first.events ++ (next value).events, (next value).outcome⟩
  | .error error => ⟨first.events, .error error⟩

instance : Monad Traced where
  pure value := ofExcept (.ok value)
  bind := andThen

def call (event : HookEvent) (answer : Except String α) : Traced α :=
  ⟨[event], answer.mapError QueryError.hook⟩

end Traced

namespace Hooks

variable {α : Type}

/-- How many levels of groups the hooks may add to a where tree. -/
def growth (hooks : Hooks α) : Nat :=
  (hooks.preprocessor.map Preprocessor.growth).getD 0

def preprocess (hooks : Hooks α) (node : Node) : Traced Node :=
  match hooks.preprocessor with
  | none => pure node
  | some preprocessor =>
      Traced.call (.preprocess node.path node.isGroup) (preprocessor.edit node)

def provide (hooks : Hooks α) (node : Node) : Traced (Option (Predicate α)) :=
  match hooks.provider with
  | none => pure none
  | some provide => Traced.call (.provide node.path node.isGroup) (provide node)

def sortKey (hooks : Hooks α) (key : OrderKey) (primary : Bool)
    : Traced (Option (SortKey α)) :=
  match hooks.sorter with
  | none => pure none
  | some sorter =>
      Traced.call (.sort key.path key.descending primary) (sorter key primary)

end Hooks

end TypedQuery
