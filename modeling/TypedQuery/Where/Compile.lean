import TypedQuery.Hooks

/-! Where trees compiled into predicates. Siblings are combined from left to right, each with the
connector of the node before it, and a group stands for its combined children. No node at all,
at any level, is a condition that never holds. -/

namespace TypedQuery

namespace Connector

def join {α : Type} (connector : Connector) (left right : Predicate α) : Predicate α :=
  match connector with
  | .and => left.and right
  | .or => left.or right

end Connector

namespace Where

/-- A compiled node: its predicate, and the connector to the node after it. -/
structure Part (α : Type) where
  predicate : Predicate α
  connector : Connector

/-- Joins further parts to what the parts before them amount to; `connector` is that of the last
of those. -/
def joinOnto {α : Type} (joined : Predicate α) (connector : Connector)
    : List (Part α) → Predicate α
  | [] => joined
  | part :: rest => joinOnto (connector.join joined part.predicate) part.connector rest

/-- What a list of siblings amounts to. -/
def joinAll {α : Type} : List (Part α) → Predicate α
  | [] => Predicate.constant false
  | part :: rest => joinOnto part.predicate part.connector rest

/-- The refusal of a tree that edits keep making higher. -/
def unboundedGrowth : QueryError :=
  .hook "the preprocessor keeps adding groups"

/-- Compiles a node: it is preprocessed, then offered to the provider, and only without a supplied
predicate compiled as a clause or a group. `depth` bounds how many groups may lie within it. -/
def compileNode (schema : Schema) (owner : schema.Ty) (hooks : Hooks (schema.Item owner))
    (depth : Nat) (received : Node) : Traced (Part (schema.Item owner)) := do
  let node ← hooks.preprocess received
  match ← hooks.provide node with
  | some predicate => return ⟨predicate, node.connector⟩
  | none =>
      match node.children with
      | none =>
          let predicate ← Traced.ofExcept (node.clause.compile schema owner)
          return ⟨predicate, node.connector⟩
      | some children =>
          match depth with
          | 0 => Traced.ofExcept (.error unboundedGrowth)
          | depth + 1 =>
              let parts ← children.mapM (compileNode schema owner hooks depth)
              return ⟨(joinAll parts).negatedIf node.negate, node.connector⟩

def compile (schema : Schema) (owner : schema.Ty) (hooks : Hooks (schema.Item owner))
    (nodes : List Node) : Traced (Predicate (schema.Item owner)) := do
  -- One level more than the tree has, since an edit may put an empty group in place of a clause.
  let depth := Node.heightAll nodes + 1 + hooks.growth
  let parts ← nodes.mapM (compileNode schema owner hooks depth)
  return joinAll parts

end Where

end TypedQuery
