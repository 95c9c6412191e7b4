import TypedQuery.Proofs.Hooks.Attempts
import TypedQuery.Where.Compile

/-! The order in which hooks are called. A where tree is walked depth first, from left to right, each node
before its children; order keys are taken one after the other. The walk of a tree exists if edits add no
children, and compiling the tree follows it.
-/

namespace TypedQuery

-----------------------------------------------------------------------------------------
-- Generations of nodes
-----------------------------------------------------------------------------------------

namespace Node

mutual

/-- How many generations of nodes are below a node. -/
def generations : Node → Nat
  | ⟨_, _, _, _, _, none⟩ => 0
  | ⟨_, _, _, _, _, some children⟩ => generationsAll children

/-- How many generations a list of nodes is made of. -/
def generationsAll : List Node → Nat
  | [] => 0
  | node :: rest => max (node.generations + 1) (generationsAll rest)

end

theorem generations_eq (node : Node)
    : node.generations = generationsAll (node.children.getD []) := by
  obtain ⟨path, comparison, tokens, negate, connector, children⟩ := node
  cases children with
  | none => simp [generations, generationsAll]
  | some children => simp [generations]

/-- A list of nodes has as many generations as its nodes need. -/
theorem generationsAll_le {nodes : List Node} {bound : Nat}
    : generationsAll nodes ≤ bound ↔ ∀ node ∈ nodes, node.generations < bound := by
  induction nodes with
  | nil => simp [generationsAll]
  | cons node rest ih =>
      simp only [generationsAll, Nat.max_le, ih, List.forall_mem_cons, Nat.succ_le_iff]

mutual

/-- Each generation below a node takes a group to be in. -/
theorem generations_le_height : ∀ node : Node, node.generations ≤ node.height
  | ⟨_, _, _, _, _, none⟩ => by simp [generations, height]
  | ⟨_, _, _, _, _, some children⟩ => by
      simpa [generations, height] using generationsAll_le_height children

theorem generationsAll_le_height : ∀ nodes : List Node, generationsAll nodes ≤ heightAll nodes + 1
  | [] => by simp [generationsAll]
  | node :: rest => by
      have first := generations_le_height node
      have others := generationsAll_le_height rest
      simp only [generationsAll, heightAll]
      omega

end

end Node

-----------------------------------------------------------------------------------------
-- The walk
-----------------------------------------------------------------------------------------

namespace Hooks

variable {α : Type}

/-- The node as the preprocessor leaves it. A node that it refuses stays as it is. -/
def edited (hooks : Hooks α) (node : Node) : Node :=
  (hooks.preprocessor.bind fun preprocessor => (preprocessor.edit node).toOption).getD node

/-- The provider supplies a predicate for the node. -/
def overrides (hooks : Hooks α) (node : Node) : Bool :=
  ((hooks.provider.bind fun provide => (provide node).toOption).getD none).isSome

/-- The sorter supplies a comparison for the key. -/
def suppliesKey (hooks : Hooks α) (primary : Bool) (key : OrderKey) : Bool :=
  ((hooks.sorter.bind fun sorter => (sorter key primary).toOption).getD none).isSome

/-- What is attempted on a node itself: it is preprocessed as it stands, then it is offered to the
provider as the preprocessor left it, and then compiled if it is a clause that nothing stands in for. -/
def visit (hooks : Hooks α) (node : Node) : List Attempt :=
  (if hooks.preprocessor.isSome then [.preprocess node] else [])
    ++ (if hooks.provider.isSome then [.provide (hooks.edited node)] else [])
    ++ (if hooks.overrides (hooks.edited node) || (hooks.edited node).isGroup then []
        else [.clause (hooks.edited node).clause])

/-- The nodes below a node: its children after preprocessing, unless the provider stands in for them. -/
def below (hooks : Hooks α) (node : Node) : List Node :=
  if hooks.overrides (hooks.edited node) then [] else (hooks.edited node).children.getD []

/-- What is attempted on nodes that stand one after the other: on the first of them itself, then on the
nodes below it, and then on the nodes after it. -/
inductive Walk (hooks : Hooks α) : List Node → List Attempt → Prop
  | nil : Walk hooks [] []
  | cons {node rest inner after} (descends : Walk hooks (hooks.below node) inner)
    (goesOn : Walk hooks rest after)
    : Walk hooks (node :: rest) (hooks.visit node ++ inner ++ after)

/-- Edits leave no more generations below a node than it had. So it is if they add no children, neither
to the node nor to any node below it. -/
def AddsNoGenerations (hooks : Hooks α) : Prop :=
  ∀ node, (hooks.edited node).generations ≤ node.generations

/-- Edits that leave a node some of its children, and give it no others, add no generations. -/
theorem addsNoGenerations_of_subset {hooks : Hooks α}
    (kept : ∀ node, (hooks.edited node).children.getD [] ⊆ node.children.getD [])
    : hooks.AddsNoGenerations := by
  intro node
  rw [Node.generations_eq, Node.generations_eq node, Node.generationsAll_le]
  intro child member
  exact Node.generationsAll_le.mp (Nat.le_refl _) child (kept node member)

/-- There are no more generations below a node than the node itself has. -/
theorem AddsNoGenerations.below_le {hooks : Hooks α} (adds : hooks.AddsNoGenerations) (node : Node)
    : Node.generationsAll (hooks.below node) ≤ node.generations := by
  unfold below
  split
  · simp [Node.generationsAll]
  · rw [← Node.generations_eq]
    exact adds node

/-- Nodes have a walk if edits add no generations, by induction on how many generations there may be, and
for as many of these on the nodes. -/
theorem AddsNoGenerations.exists_walk_of_le {hooks : Hooks α} (adds : hooks.AddsNoGenerations)
    {bound : Nat} {nodes : List Node} (few : Node.generationsAll nodes ≤ bound)
    : ∃ attempts, hooks.Walk nodes attempts := by
  induction bound generalizing nodes with
  | zero =>
      cases nodes with
      | nil => exact ⟨_, .nil⟩
      | cons node rest => simp [Node.generationsAll] at few
  | succ bound deeper =>
      induction nodes with
      | nil => exact ⟨_, .nil⟩
      | cons node rest further =>
          simp only [Node.generationsAll, Nat.max_le, Nat.add_le_add_iff_right] at few
          obtain ⟨inner, descends⟩ := deeper (Nat.le_trans (adds.below_le node) few.1)
          obtain ⟨after, goesOn⟩ := further few.2
          exact ⟨_, .cons descends goesOn⟩

theorem AddsNoGenerations.exists_walk {hooks : Hooks α} (adds : hooks.AddsNoGenerations)
    (nodes : List Node)
    : ∃ attempts, hooks.Walk nodes attempts :=
  adds.exists_walk_of_le (Nat.le_refl _)

/-- Nodes have one walk only. -/
theorem Walk.unique {hooks : Hooks α} {nodes : List Node} {attempts others : List Attempt}
    (walk : hooks.Walk nodes attempts) (other : hooks.Walk nodes others)
    : attempts = others := by
  induction walk generalizing others with
  | nil =>
      cases other
      rfl
  | cons descends goesOn inner after =>
      cases other with
      | cons descends goesOn => rw [inner descends, after goesOn]

/-- There is nothing to be attempted on no nodes. -/
theorem Walk.eq_nil {hooks : Hooks α} {attempts : List Attempt} (walk : hooks.Walk [] attempts)
    : attempts = [] :=
  walk.unique .nil

-----------------------------------------------------------------------------------------
-- Calls of single hooks
-----------------------------------------------------------------------------------------

variable {schema : Schema} {owner : schema.Ty} {hooks : Hooks (schema.Item owner)}

theorem preprocess_eq (node : Node)
    : hooks.preprocess node
      = .consult hooks.preprocessor (.preprocess node.path node.isGroup) node
          fun preprocessor => preprocessor.edit node := by
  unfold preprocess Traced.consult
  cases hooks.preprocessor <;> rfl

theorem provide_eq (node : Node)
    : hooks.provide node
      = .consult hooks.provider (.provide node.path node.isGroup) none
          fun provider => provider node := by
  unfold provide Traced.consult
  cases hooks.provider <;> rfl

theorem sortKey_eq (key : OrderKey) (primary : Bool)
    : hooks.sortKey key primary
      = .consult hooks.sorter (.sort key.path key.descending primary) none
          fun sorter => sorter key primary := by
  unfold sortKey Traced.consult
  cases hooks.sorter <;> rfl

theorem preprocess_follows (node : Node)
    : (hooks.preprocess node).Follows (Attempt.failure? schema owner hooks)
        (if hooks.preprocessor.isSome then [.preprocess node] else []) :=
  hooks.preprocess_eq node ▸ .consult rfl rfl

theorem provide_follows (node : Node)
    : (hooks.provide node).Follows (Attempt.failure? schema owner hooks)
        (if hooks.provider.isSome then [.provide node] else []) :=
  hooks.provide_eq node ▸ .consult rfl rfl

theorem sortKey_follows (key : OrderKey) (primary : Bool)
    : (hooks.sortKey key primary).Follows (Attempt.failure? schema owner hooks)
        (if hooks.sorter.isSome then [.sort key primary] else []) :=
  hooks.sortKey_eq key primary ▸ .consult rfl rfl

theorem edited_of_preprocess {received node : Node}
    (preprocessed : (hooks.preprocess received).outcome = .ok node)
    : hooks.edited received = node :=
  Traced.consult_value (hooks.preprocess_eq received ▸ preprocessed)

theorem overrides_of_provide {node : Node} {answer : Option (Predicate (schema.Item owner))}
    (provided : (hooks.provide node).outcome = .ok answer)
    : hooks.overrides node = answer.isSome :=
  congrArg Option.isSome (Traced.consult_value (hooks.provide_eq node ▸ provided))

theorem suppliesKey_of_sortKey {key : OrderKey} {primary : Bool}
    {answer : Option (SortKey (schema.Item owner))}
    (provided : (hooks.sortKey key primary).outcome = .ok answer)
    : hooks.suppliesKey primary key = answer.isSome :=
  congrArg Option.isSome (Traced.consult_value (hooks.sortKey_eq key primary ▸ provided))

end Hooks

-----------------------------------------------------------------------------------------
-- Compiling follows the walk
-----------------------------------------------------------------------------------------

namespace Where

variable {schema : Schema} {owner : schema.Ty} {hooks : Hooks (schema.Item owner)}

/-- Compiling a node follows what is attempted on the node itself and then what is attempted below it, if
there is room for its children and compiling these does. -/
theorem compileNode_follows {depth : Nat} {received : Node} {inner : List Attempt}
    (descends : hooks.Walk (hooks.below received) inner)
    (children
      : ((hooks.below received).mapM (compileNode schema owner hooks depth)).Follows
          (Attempt.failure? schema owner hooks) inner)
    : (compileNode schema owner hooks (depth + 1) received).Follows
        (Attempt.failure? schema owner hooks) (hooks.visit received ++ inner) := by
  unfold compileNode
  rw [Hooks.visit, List.append_assoc, List.append_assoc]
  refine (Hooks.preprocess_follows received).bind fun node preprocessed => ?_
  obtain rfl := Hooks.edited_of_preprocess preprocessed
  refine (Hooks.provide_follows _).bind fun answer provided => ?_
  have overridden := Hooks.overrides_of_provide provided
  cases answer with
  | some predicate =>
      have nothing : hooks.below received = [] := by simp [Hooks.below, overridden]
      rw [nothing] at descends
      rw [descends.eq_nil]
      simp only [overridden, Option.isSome_some, Bool.true_or, if_true, List.append_nil]
      exact .pure _
  | none =>
      cases nested : (hooks.edited received).children with
      | none =>
          have nothing : hooks.below received = [] := by simp [Hooks.below, overridden, nested]
          rw [nothing] at descends
          rw [descends.eq_nil]
          simp only [overridden, Node.isGroup, nested, Option.isSome_none, Bool.or_self,
            Bool.false_eq_true, if_false, List.append_nil]
          exact .map _ (.ofExcept rfl rfl)
      | some members =>
          have those : hooks.below received = members := by
            simp [Hooks.below, overridden, nested]
          rw [those] at children
          simp only [overridden, Node.isGroup, nested, Option.isSome_none, Option.isSome_some,
            Bool.false_or, if_true, List.nil_append]
          exact children.map _

/-- Compiling siblings follows their walk, by induction on the walk. -/
theorem mapM_compileNode_follows (adds : hooks.AddsNoGenerations) {depth : Nat} {nodes : List Node}
    {attempts : List Attempt} (walk : hooks.Walk nodes attempts)
    (room : Node.generationsAll nodes ≤ depth)
    : (nodes.mapM (compileNode schema owner hooks depth)).Follows
        (Attempt.failure? schema owner hooks) attempts := by
  induction walk generalizing depth with
  | nil =>
      rw [List.mapM_nil]
      exact .pure []
  | @cons node _ _ _ descends goesOn within after =>
      simp only [Node.generationsAll, Nat.max_le, Nat.succ_le_iff] at room
      rw [List.mapM_cons]
      refine Traced.Follows.bind ?_ fun part _ => (after room.2).map _
      obtain ⟨smaller, rfl⟩ := Nat.exists_eq_succ_of_ne_zero (Nat.ne_zero_of_lt room.1)
      exact compileNode_follows descends
        (within (Nat.le_trans (adds.below_le node) (Nat.lt_succ_iff.mp room.1)))

/-- Compiling a where tree follows its walk. -/
theorem compile_follows (adds : hooks.AddsNoGenerations) {nodes : List Node}
    {attempts : List Attempt} (walk : hooks.Walk nodes attempts)
    : (compile schema owner hooks nodes).Follows (Attempt.failure? schema owner hooks) attempts :=
  (mapM_compileNode_follows adds walk
    (Nat.le_trans (Node.generationsAll_le_height nodes) (Nat.le_add_right _ _))).map _

end Where

-----------------------------------------------------------------------------------------
-- Order keys
-----------------------------------------------------------------------------------------

namespace Hooks

variable {α : Type}

/-- What is attempted on a key: it is offered to the sorter, and compiled if nothing stands in for it. -/
def visitKey (hooks : Hooks α) (primary : Bool) (key : OrderKey) : List Attempt :=
  (if hooks.sorter.isSome then [.sort key primary] else [])
    ++ (if hooks.suppliesKey primary key then [] else [.property key])

/-- What is attempted on order keys, of which the first is the primary one. -/
def visitKeys (hooks : Hooks α) (keys : List OrderKey) : List Attempt :=
  (keys.mapIdx fun place key => hooks.visitKey (place == 0) key).flatten

end Hooks

namespace Order

variable {schema : Schema} {owner : schema.Ty} {hooks : Hooks (schema.Item owner)}

theorem compileKey_follows (key : OrderKey) (primary : Bool)
    : (compileKey schema owner hooks key primary).Follows (Attempt.failure? schema owner hooks)
        (hooks.visitKey primary key) := by
  refine (Hooks.sortKey_follows key primary).bind fun answer provided => ?_
  rw [Hooks.suppliesKey_of_sortKey provided]
  cases answer with
  | some supplied => exact .pure supplied
  | none => exact .ofExcept rfl rfl

/-- Compiling keys follows what is attempted on them, one after the other, by induction on the keys. Only
the first of them can be the primary one. -/
theorem compileKeys_follows (keys : List OrderKey) (primary : Bool)
    : (compileKeys schema owner hooks primary keys).Follows (Attempt.failure? schema owner hooks)
        (keys.mapIdx fun place key => hooks.visitKey (primary && place == 0) key).flatten := by
  induction keys generalizing primary with
  | nil => exact .pure []
  | cons key rest ih =>
      have places
          : (key :: rest).mapIdx (fun place key => hooks.visitKey (primary && place == 0) key)
            = hooks.visitKey primary key
              :: rest.mapIdx fun place key => hooks.visitKey (false && place == 0) key := by
        simp [List.mapIdx_cons]
      rw [places, List.flatten_cons]
      exact (compileKey_follows key primary).bind fun first _ => (ih false).map (first :: ·)

/-- Compiling an order follows what is attempted on its keys. -/
theorem compile_follows (keys : List OrderKey)
    : (compile schema owner hooks keys).Follows (Attempt.failure? schema owner hooks)
        (hooks.visitKeys keys) := by
  cases keys with
  | nil => exact .pure none
  | cons key rest => exact (compileKeys_follows (key :: rest) true).map _

end Order

end TypedQuery
