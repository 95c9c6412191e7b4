import TypedQuery.Clause

/-! Where trees as sent by clients: lists of nodes, each a clause or a group of further nodes, and
each with the connector that joins it to the node after it. -/

namespace TypedQuery

/-- A node of a where tree. A node with children, be it none, is a group, whose path, comparison
and tokens are ignored. The connector of the last of several siblings is ignored too. -/
structure Node where
  path : String := ""
  comparison : Comparison := .equal
  tokens : List Token := []
  negate : Bool := false
  connector : Connector := .and
  children : Option (List Node) := none
deriving BEq, Repr

namespace Node

/-- A comparison of the value at a path with tokens, none of them null. -/
def leaf (path : String) (comparison : Comparison) (tokens : List String) : Node :=
  { path, comparison, tokens := tokens.map some }

def group (children : List Node) : Node :=
  { children := some children }

def negated (node : Node) : Node :=
  { node with negate := !node.negate }

/-- The node joined to the one after it by the connector. -/
def joinedBy (node : Node) (connector : Connector) : Node :=
  { node with connector }

/-- The node with other tokens, of which any may be null. -/
def withTokens (node : Node) (tokens : List Token) : Node :=
  { node with tokens }

def isGroup (node : Node) : Bool :=
  node.children.isSome

/-- The clause of a node that is none of a group. -/
def clause (node : Node) : Clause :=
  ⟨node.path, node.comparison, node.tokens, node.negate⟩

mutual

/-- How many groups lie one within the other at the node. -/
def height : Node → Nat
  | ⟨_, _, _, _, _, none⟩ => 0
  | ⟨_, _, _, _, _, some children⟩ => heightAll children + 1

/-- How many groups lie one within the other somewhere in a list of nodes. -/
def heightAll : List Node → Nat
  | [] => 0
  | node :: rest => max node.height (heightAll rest)

end

end Node

end TypedQuery
