/-! Orders of items: chains of keys, of which each decides between items that all keys before it
left equal, and the stable sorting of a list by such a chain. -/

namespace TypedQuery

structure OrderKey where
  path : String
  descending : Bool := false
deriving DecidableEq, Repr

/-- Whether a key puts small or large items first. -/
inductive Direction where
  | ascending
  | descending
deriving DecidableEq, Repr

namespace Direction

def apply (direction : Direction) (ordering : Ordering) : Ordering :=
  match direction with
  | .ascending => ordering
  | .descending => ordering.swap

def name : Direction → String
  | .ascending => "asc"
  | .descending => "desc"

end Direction

def OrderKey.direction (key : OrderKey) : Direction :=
  if key.descending then .descending else .ascending

/-- One key of a compiled order: a comparison of items in ascending direction, and the direction
to use it in. -/
structure SortKey (α : Type) where
  label : String
  direction : Direction
  ascending : α → α → Ordering

def SortKey.compare {α : Type} (key : SortKey α) (left right : α) : Ordering :=
  key.direction.apply (key.ascending left right)

/-- A compiled order: the keys by priority. -/
structure OrderChain (α : Type) where
  keys : List (SortKey α)

namespace OrderChain

variable {α : Type}

/-- Compares two items by a list of keys; the first key that tells them apart decides. -/
def compareBy : List (SortKey α) → α → α → Ordering
  | [], _, _ => .eq
  | key :: rest, left, right =>
      match key.compare left right with
      | .eq => compareBy rest left right
      | ordering => ordering

def compare (chain : OrderChain α) (left right : α) : Ordering :=
  compareBy chain.keys left right

/-- The chain in the form of a client's keys, for stores that sort by themselves. -/
def description (chain : OrderChain α) : List OrderKey :=
  chain.keys.map (fun key => ⟨key.label, key.direction == .descending⟩)

/-- Puts an item into a list that is sorted from its end to its start, passing the items that
come strictly after it. -/
def insertFromEnd (chain : OrderChain α) (item : α) : List α → List α
  | [] => [item]
  | last :: rest =>
      if chain.compare item last = .lt then last :: insertFromEnd chain item rest
      else item :: last :: rest

/-- Sorts a list. Items that the chain leaves equal keep their order. -/
def sort (chain : OrderChain α) (items : List α) : List α :=
  (items.foldl (fun sorted item => insertFromEnd chain item sorted) []).reverse

end OrderChain

end TypedQuery
