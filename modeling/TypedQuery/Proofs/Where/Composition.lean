import TypedQuery.Proofs.Accessor.Resolution
import TypedQuery.Proofs.Clause.Leaf
import TypedQuery.Proofs.Where.Derivation

/-! What the predicates of where trees are composed of. Without hooks there are comparisons on values,
conditions on the elements of collections, and connectives around these. Whatever is kept by composing
holds of every accepted tree, and what connectives keep does if it holds of all clauses of the tree.
-/

namespace TypedQuery

-----------------------------------------------------------------------------------------
-- Leaves
-----------------------------------------------------------------------------------------

namespace Node

mutual

/-- The clauses at and below a node, from left to right. A group has no clause of its own. -/
def leaves : Node → List Clause
  | node@⟨_, _, _, _, _, none⟩ => [node.clause]
  | ⟨_, _, _, _, _, some children⟩ => leavesAll children

/-- The clauses of nodes that stand one after the other. -/
def leavesAll : List Node → List Clause
  | [] => []
  | node :: rest => node.leaves ++ leavesAll rest

end

/-- A node has its own clause unless it is a group, and then those of its children. -/
theorem leaves_eq (node : Node)
    : node.leaves
      = (if node.isGroup then [] else [node.clause]) ++ leavesAll (node.children.getD []) := by
  obtain ⟨path, comparison, tokens, negate, connector, children⟩ := node
  cases children <;> simp [leaves, leavesAll, isGroup]

/-- The clauses of a node are among those of all nodes that it stands among. -/
theorem leaves_subset {node : Node} {nodes : List Node} (member : node ∈ nodes)
    : node.leaves ⊆ leavesAll nodes := by
  induction nodes with
  | nil => cases member
  | cons first rest ih =>
      rcases List.mem_cons.mp member with rfl | later
      · exact List.subset_append_left _ _
      · exact List.Subset.trans (ih later) (List.subset_append_right _ _)

end Node

-----------------------------------------------------------------------------------------
-- Connectives
-----------------------------------------------------------------------------------------

/-- A property of predicates on the items of one type that is kept by connectives. -/
structure Connected {α : Type} (holds : Predicate α → Prop) : Prop where
  never : holds (.constant false)
  not : ∀ {predicate}, holds predicate → holds predicate.not
  and : ∀ {left right}, holds left → holds right → holds (left.and right)
  or : ∀ {left right}, holds left → holds right → holds (left.or right)

namespace Connected

section Parts

variable {α : Type} {holds : Predicate α → Prop}

theorem negatedIf (connected : Connected holds) {predicate : Predicate α} (held : holds predicate)
    (negate : Bool)
    : holds (predicate.negatedIf negate) := by
  cases negate with
  | false => exact held
  | true => exact connected.not held

/-- Siblings that have the property have it as joined, by induction on the siblings that are still to
be joined. -/
theorem joinOnto (connected : Connected holds) {joined : Predicate α} {connector : Connector}
    {rest : List (Where.Part α)} (held : holds joined)
    (members : ∀ part ∈ rest, holds part.predicate)
    : holds (Where.joinOnto joined connector rest) := by
  induction rest generalizing joined connector with
  | nil => exact held
  | cons part rest ih =>
      have next : holds part.predicate := members part (by simp)
      refine ih ?_ fun other member => members other (by simp [member])
      cases connector with
      | and => exact connected.and held next
      | or => exact connected.or held next

/-- Siblings that have the property have it as joined, and no siblings at all have it. -/
theorem joinAll (connected : Connected holds) {parts : List (Where.Part α)}
    (held : ∀ part ∈ parts, holds part.predicate)
    : holds (Where.joinAll parts) := by
  cases parts with
  | nil => exact connected.never
  | cons part rest =>
      exact connected.joinOnto (held part (by simp)) fun other member =>
        held other (by simp [member])

end Parts

/-- A where tree that is accepted without hooks has the property if the predicates of all its clauses
have it. -/
theorem of_compile {schema : Schema} {owner : schema.Ty}
    {holds : Predicate (schema.Item owner) → Prop} (connected : Connected holds)
    {nodes : List Node} {predicate : Predicate (schema.Item owner)}
    (leaves
      : ∀ leaf ∈ Node.leavesAll nodes, ∀ predicate,
          leaf.compile schema owner = .ok predicate → holds predicate)
    (accepted : (Where.compile schema owner {} nodes).outcome = .ok predicate)
    : holds predicate := by
  -- Known of a node: its part has the property if the predicates of its clauses have it.
  let known (node : Node) (part : Where.Part (schema.Item owner)) : Prop :=
    (∀ leaf ∈ node.leaves, ∀ predicate,
      leaf.compile schema owner = .ok predicate → holds predicate) → holds part.predicate
  have joined {nodes : List Node} {parts : List (Where.Part (schema.Item owner))}
      (members : List.Forall₂ known nodes parts)
      (leaves
        : ∀ leaf ∈ Node.leavesAll nodes, ∀ predicate,
            leaf.compile schema owner = .ok predicate → holds predicate)
      : holds (Where.joinAll parts) := by
    refine connected.joinAll fun part member => ?_
    obtain ⟨node, among, knows⟩ := exists_of_mem_right members member
    exact knows fun leaf below => leaves leaf (Node.leaves_subset among below)
  have step (received : Node) (part : Where.Part (schema.Item owner))
      (derived : Where.Accepted {} known received part)
      : known received part := by
    intro leaves
    rw [Node.leaves_eq] at leaves
    cases derived with
    | supplied edited provided => cases provided
    | clause edited provided leaf compiled =>
        cases edited
        exact leaves _ (by simp [Node.isGroup, leaf]) _ compiled
    | group edited provided nested members =>
        cases edited
        rw [nested] at leaves
        refine connected.negatedIf (joined members fun leaf below => leaves leaf ?_) _
        exact List.mem_append_right _ below
  obtain ⟨parts, members, rfl⟩ := Where.compile_induction step accepted
  exact joined members leaves

end Connected

-----------------------------------------------------------------------------------------
-- Brackets and values
-----------------------------------------------------------------------------------------

/-- A property of predicates, for the items of every type of a schema, that holds of comparisons on
values and is kept by composing. -/
structure Composable (schema : Schema)
    (holds : (owner : schema.Ty) → Predicate (schema.Item owner) → Prop)
    : Prop where
  never : ∀ owner, holds owner (.constant false)
  not : ∀ {owner predicate}, holds owner predicate → holds owner predicate.not
  and
    : ∀ {owner left right}, holds owner left → holds owner right → holds owner (left.and right)
  or : ∀ {owner left right}, holds owner left → holds owner right → holds owner (left.or right)
  any
    : ∀ {owner path element gather inner},
        schema.collectionAt? owner (Path.names path) = some ⟨element, gather⟩
        → holds element inner
        → holds owner (.any path gather inner)
  compared
    : ∀ {owner path kind nullable read comparison tokens predicate},
        resolve schema owner path = .ok (.value kind nullable read)
        → comparison.appliesTo kind.family = true
        → ReadValue.Built ⟨path, kind, nullable, read⟩ tokens comparison predicate
        → holds owner predicate

namespace Composable

variable {schema : Schema} {holds : (owner : schema.Ty) → Predicate (schema.Item owner) → Prop}
  {owner : schema.Ty}

/-- For the items of each type the property is kept by connectives. -/
theorem connected (composable : Composable schema holds) (owner : schema.Ty)
    : Connected (holds owner) where
  never := composable.never owner
  not := composable.not
  and := composable.and
  or := composable.or

/-- A comparison on a resolved path has the property, by induction on where the path leads: a bracket
takes the question to the elements. -/
theorem of_predicate (composable : Composable schema holds) {target : Target schema owner}
    {path : String} {comparison : Comparison} {tokens : List Token}
    {predicate : Predicate (schema.Item owner)} (resolved : resolve schema owner path = .ok target)
    (compiled : target.predicate comparison tokens path = .ok predicate)
    : holds owner predicate := by
  induction target generalizing path with
  | value kind nullable read =>
      obtain ⟨applies, built⟩ := ReadValue.predicate_eq_ok.mp compiled
      exact composable.compared resolved applies built
  | elements dotted element gather elementPath inner ih =>
      obtain ⟨reached, descends⟩ := resolve_elements resolved
      obtain ⟨each, compiles, rfl⟩ := Target.predicate_elements_eq_ok.mp compiled
      exact composable.any reached (ih descends compiles)

/-- A clause that compiles has the property, with its negation. -/
theorem of_clause (composable : Composable schema holds) {clause : Clause}
    {predicate : Predicate (schema.Item owner)}
    (compiled : clause.compile schema owner = .ok predicate)
    : holds owner predicate := by
  obtain ⟨target, positive, leads, built, rfl⟩ := Clause.compile_eq_ok.mp compiled
  exact (composable.connected owner).negatedIf (composable.of_predicate leads built) clause.negate

/-- Siblings that come from nodes and have the property have it as joined. -/
theorem joinAll (composable : Composable schema holds) {nodes : List Node}
    {parts : List (Where.Part (schema.Item owner))}
    (members : List.Forall₂ (fun _ part => holds owner part.predicate) nodes parts)
    : holds owner (Where.joinAll parts) := by
  refine (composable.connected owner).joinAll fun part member => ?_
  obtain ⟨_, _, held⟩ := exists_of_mem_right members member
  exact held

/-- Every where tree that is accepted without hooks has the property. -/
theorem of_compile (composable : Composable schema holds) {nodes : List Node}
    {predicate : Predicate (schema.Item owner)}
    (accepted : (Where.compile schema owner {} nodes).outcome = .ok predicate)
    : holds owner predicate :=
  (composable.connected owner).of_compile
    (fun _ _ _ compiled => composable.of_clause compiled) accepted

end Composable

end TypedQuery
