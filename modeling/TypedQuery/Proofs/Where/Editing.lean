import TypedQuery.Proofs.Accessor.Resolution
import TypedQuery.Proofs.Hooks.Walk

/-! Edits made ahead of compiling. A preprocessor that refuses nothing and leaves the children of nodes as
they are may as well edit the whole tree at once: compiling the edited tree without it comes to the
same, unless the provider looks at the children of a group, which may not be edited yet when it is asked.
-/

namespace TypedQuery

-----------------------------------------------------------------------------------------
-- Edited trees
-----------------------------------------------------------------------------------------

namespace Node

mutual

/-- The tree in which the node and all nodes below it are edited, each as it stands in the tree that is
given. -/
def editTree (edit : Node → Node) : Node → Node
  | node@⟨_, _, _, _, _, none⟩ => { edit node with children := none }
  | node@⟨_, _, _, _, _, some children⟩ =>
      { edit node with children := some (editForest edit children) }

def editForest (edit : Node → Node) : List Node → List Node
  | [] => []
  | node :: rest => node.editTree edit :: editForest edit rest

end

variable (edit : Node → Node)

/-- A node is edited, and so are its children. -/
theorem editTree_eq (node : Node)
    : node.editTree edit = { edit node with children := node.children.map (editForest edit) } := by
  obtain ⟨path, comparison, tokens, negate, connector, children⟩ := node
  cases children <;> simp [editTree]

theorem editForest_eq_map (nodes : List Node)
    : editForest edit nodes = nodes.map (editTree edit) := by
  induction nodes with
  | nil => rfl
  | cons node rest ih => rw [editForest, ih, List.map_cons]

mutual

/-- Editing all nodes and changing nothing gives the tree back. -/
theorem editTree_of_id {edit : Node → Node} (nothing : ∀ node, edit node = node)
    : ∀ node : Node, node.editTree edit = node
  | ⟨_, _, _, _, _, none⟩ => by rw [editTree, nothing]
  | ⟨_, _, _, _, _, some children⟩ => by
      rw [editTree, nothing, editForest_of_id nothing children]

theorem editForest_of_id {edit : Node → Node} (nothing : ∀ node, edit node = node)
    : ∀ nodes : List Node, editForest edit nodes = nodes
  | [] => rfl
  | node :: rest => by rw [editForest, editTree_of_id nothing node, editForest_of_id nothing rest]

end

end Node

-----------------------------------------------------------------------------------------
-- Hooks that allow for it
-----------------------------------------------------------------------------------------

/-- The preprocessor makes the edit of each node and refuses none. The edit leaves the children of a node
as they are. -/
structure Preprocessor.Makes (preprocessor : Preprocessor) (edit : Node → Node) : Prop where
  succeeds : ∀ node, preprocessor.edit node = .ok (edit node)
  keepsChildren : ∀ node, (edit node).children = node.children

namespace Hooks

variable {α : Type}

/-- The hooks without their preprocessor. -/
def unedited (hooks : Hooks α) : Hooks α :=
  { hooks with preprocessor := none }

/-- The provider gives one answer for groups that differ in their children only. -/
def IgnoresChildren (hooks : Hooks α) : Prop :=
  ∀ provide, hooks.provider = some provide →
    ∀ (node : Node) (children others : List Node),
      provide { node with children := some children } = provide { node with children := some others }

variable {hooks : Hooks α} {preprocessor : Preprocessor} {edit : Node → Node}

theorem preprocess_of_makes (installed : hooks.preprocessor = some preprocessor)
    (makes : preprocessor.Makes edit) (node : Node)
    : (hooks.preprocess node).outcome = .ok (edit node) := by
  rw [preprocess, installed]
  exact congrArg (Except.mapError QueryError.hook) (makes.succeeds node)

/-- A provider that ignores children answers for a node of the edited tree as for the node that is edited
alone. -/
theorem provide_editTree (ignores : hooks.IgnoresChildren) (makes : preprocessor.Makes edit)
    (node : Node)
    : hooks.unedited.provide (node.editTree edit) = hooks.provide (edit node) := by
  have kept := makes.keepsChildren node
  rw [Node.editTree_eq]
  generalize edit node = edited at kept
  obtain ⟨path, comparison, tokens, negate, connector, children⟩ := edited
  obtain rfl : children = node.children := kept
  cases nested : node.children with
  | none => rfl
  | some children =>
      unfold provide unedited
      cases installed : hooks.provider with
      | none => rfl
      | some provide =>
          exact congrArg (Traced.call (.provide path true))
            (ignores provide installed ⟨path, comparison, tokens, negate, connector, none⟩ _ _)

end Hooks

-----------------------------------------------------------------------------------------
-- Compiling edited trees
-----------------------------------------------------------------------------------------

namespace Where

variable {schema : Schema} {owner : schema.Ty} {hooks : Hooks (schema.Item owner)}
  {preprocessor : Preprocessor} {edit : Node → Node}

/-- A node of the edited tree compiles to the part that the node compiles to when it is edited on the
way, if there is room for the generations of both. By induction on the room. -/
theorem compileNode_editTree (installed : hooks.preprocessor = some preprocessor)
    (makes : preprocessor.Makes edit) (ignores : hooks.IgnoresChildren) {depth otherDepth : Nat}
    {node : Node} (room : node.generations < depth)
    (otherRoom : (node.editTree edit).generations < otherDepth)
    : (compileNode schema owner hooks depth node).outcome
      = (compileNode schema owner hooks.unedited otherDepth (node.editTree edit)).outcome := by
  induction depth generalizing otherDepth node with
  | zero => exact absurd room (Nat.not_lt_zero _)
  | succ depth ih =>
      have plain : hooks.unedited.preprocess (node.editTree edit) = pure (node.editTree edit) :=
        Hooks.preprocess_of_none rfl _
      unfold compileNode
      simp only [Traced.outcome_bind, Hooks.preprocess_of_makes installed makes, plain,
        Traced.outcome_pure, ok_bind, Hooks.provide_editTree ignores makes]
      refine congrArg (Bind.bind _) (funext fun answer => ?_)
      have kept := makes.keepsChildren node
      rw [Node.generations_eq] at room otherRoom
      rw [Node.editTree_eq] at otherRoom ⊢
      cases answer with
      | some predicate => rfl
      | none =>
          cases nested : node.children with
          | none =>
              rw [nested] at kept
              simp only [kept, Option.map_none]
              rfl
          | some children =>
              rw [nested] at kept room otherRoom
              simp only [Option.getD_some, Option.map_some] at room otherRoom
              cases otherDepth with
              | zero => exact absurd otherRoom (Nat.not_lt_zero _)
              | succ otherDepth =>
                  simp only [kept, Option.map_some, Traced.outcome_bind, Traced.outcome_mapM]
                  rw [Node.editForest_eq_map, Nat.lt_succ_iff, Node.generationsAll_le] at otherRoom
                  rw [Node.editForest_eq_map, List.mapM_map]
                  rw [Nat.lt_succ_iff, Node.generationsAll_le] at room
                  refine congrArg (Bind.bind · _) (mapM_congr fun child member => ?_)
                  exact ih (room child member) (otherRoom _ (List.mem_map_of_mem member))

/-- Compiling a where tree with a preprocessor that refuses nothing and keeps the children of nodes has the
outcome, be it an error or a predicate, of compiling the edited tree without it. The provider must
ignore children, since with the preprocessor it is asked before they are edited. A preprocessor that
changes nothing may as well be left out. -/
theorem compile_editForest (schema : Schema) (owner : schema.Ty)
    {hooks : Hooks (schema.Item owner)} {preprocessor : Preprocessor} {edit : Node → Node}
    (installed : hooks.preprocessor = some preprocessor) (makes : preprocessor.Makes edit)
    (ignores : hooks.IgnoresChildren) (nodes : List Node)
    : (compile schema owner hooks nodes).outcome
        = (compile schema owner hooks.unedited (Node.editForest edit nodes)).outcome
      ∧ ((∀ node, edit node = node) →
          (compile schema owner hooks nodes).outcome
          = (compile schema owner hooks.unedited nodes).outcome) := by
  have same : (compile schema owner hooks nodes).outcome
      = (compile schema owner hooks.unedited (Node.editForest edit nodes)).outcome := by
    have room := Node.generationsAll_le.mp (Node.generationsAll_le_height nodes)
    have otherRoom :=
      Node.generationsAll_le.mp (Node.generationsAll_le_height (Node.editForest edit nodes))
    simp only [compile, Traced.outcome_bind, Traced.outcome_mapM]
    rw [Node.editForest_eq_map, List.mapM_map, ← Node.editForest_eq_map]
    refine congrArg (Bind.bind · _) (mapM_congr fun node member => ?_)
    have edited : node.editTree edit ∈ Node.editForest edit nodes :=
      Node.editForest_eq_map edit nodes ▸ List.mem_map_of_mem member
    exact compileNode_editTree installed makes ignores (Nat.lt_add_right _ (room node member))
      (Nat.lt_add_right _ (otherRoom _ edited))
  refine ⟨same, fun nothing => ?_⟩
  rw [same, Node.editForest_of_id nothing]

/-- Old searches say client for the customer, mean all but what they say there, and go on with "or". -/
def renewed (node : Node) : Node :=
  if node.path = "client" then
    { node with path := "customer", negate := !node.negate, connector := .or }
  else node

/-- Hooks for old searches, where a clause on what is one's own always holds. -/
def renewal : Hooks Shop.Order where
  preprocessor := some { edit := fun node => .ok (renewed node) }
  provider := some fun node =>
    if node.path = "own" then .ok (some (.constant true)) else .ok none

/-- An old search: a group that goes by the old name, with a clause on it inside, and one's own orders. -/
def oldSearch : List Node :=
  [{ Node.group [Node.leaf "client" .equal ["Bob"], Node.leaf "number" .equal ["8"]] with
      path := "client" },
    Node.leaf "own" .equal []]

/-- The old search compiles as the search that it is edited into, of which no clause is on an unknown
property any more, and keeps an order of Ann's. -/
theorem compile_editForest_oldSearch
    : (∃ preprocessor, renewal.preprocessor = some preprocessor ∧ preprocessor.Makes renewed)
      ∧ renewal.IgnoresChildren
      ∧ (compile Shop.schema .order renewal oldSearch).outcome
        = (compile Shop.schema .order renewal.unedited (Node.editForest renewed oldSearch)).outcome
      ∧ (compile Shop.schema .order renewal oldSearch).outcome.toOption.map
          (fun predicate => predicate.test Shop.order)
        = some true
      ∧ (compile Shop.schema .order renewal.unedited oldSearch).outcome.isOk = false := by
  have makes : Preprocessor.Makes { edit := fun node => .ok (renewed node) } renewed := by
    refine ⟨fun node => rfl, fun node => ?_⟩
    unfold renewed
    split <;> rfl
  have ignores : renewal.IgnoresChildren := by
    intro provide installed node children others
    cases installed
    rfl
  exact ⟨⟨_, rfl, makes⟩, ignores,
    (compile_editForest Shop.schema .order rfl makes ignores oldSearch).1, by decide +kernel,
    by decide +kernel⟩

end Where

end TypedQuery
