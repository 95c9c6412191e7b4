import TypedQuery.Order
import TypedQuery.Where.Node

/-! The arguments of a query as sent by a client, and the options under which they are applied. -/

namespace TypedQuery

/-- The arguments of a query. A list of nodes that is present but empty keeps no item at all. -/
structure Arguments where
  ids : Option (List String) := none
  nodes : Option (List Node) := none
  orderBy : List OrderKey := []
  skip : Option UInt64 := none
  take : Option UInt64 := none
deriving BEq, Repr

/-- The arguments with one more key, for items that all keys before it leave equal. -/
def Arguments.thenBy (arguments : Arguments) (key : OrderKey) : Arguments :=
  { arguments with orderBy := arguments.orderBy ++ [key] }

/-- How arguments are applied. -/
structure ArgumentOptions where
  /-- The property that identifies items. Identifiers are ignored if there is none. -/
  keyNames : List String := []
  applyOrder : Bool := true
  /-- Whether the arguments are left out altogether. -/
  omitted : Bool := false
deriving DecidableEq, Repr

def ArgumentOptions.withKey (options : ArgumentOptions) (name : String) : ArgumentOptions :=
  { options with keyNames := options.keyNames ++ [name] }

end TypedQuery
