import TypedQuery.Proofs.Clause.Equivalence
import TypedQuery.Proofs.Where.Leaves

/-! De Morgan's law for where trees. A negated group means the same as the group of its children that are
each negated and joined by the other connector, since siblings are read from left to right and "and" and
"or" change places where they stand. So the negations of groups can be pushed down to the clauses.
-/

namespace TypedQuery

-----------------------------------------------------------------------------------------
-- Siblings and their duals
-----------------------------------------------------------------------------------------

/-- The other connector. -/
def Connector.dual : Connector → Connector
  | .and => .or
  | .or => .and

namespace Verdict

/-- The opposite verdict, joined to the next one by the other connector. -/
def dual (verdict : Verdict) : Verdict :=
  ⟨!verdict.holds, verdict.connector.dual⟩

def dualIf (turned : Bool) (verdict : Verdict) : Verdict :=
  if turned then verdict.dual else verdict

/-- Two siblings that follow each other, taken as one. -/
def join (first next : Verdict) : Verdict :=
  match first.connector with
  | .and => ⟨first.holds && next.holds, next.connector⟩
  | .or => ⟨first.holds || next.holds, next.connector⟩

theorem dual_join (first next : Verdict) : (first.join next).dual = first.dual.join next.dual := by
  obtain ⟨holds, connector⟩ := first
  cases connector <;> simp [join, dual, Connector.dual]

end Verdict

/-- The first two siblings count as one for those after them. -/
theorem siblingsHold_cons_cons (first next : Verdict) (rest : List Verdict)
    : SiblingsHold (first :: next :: rest) ↔ SiblingsHold (first.join next :: rest) := by
  obtain ⟨holds, connector⟩ := first
  rw [siblingsHold_cons, siblingsHold_cons, BoundHold, UnboundStart]
  cases connector with
  | and => simp [Verdict.join, and_assoc]
  | or => simp [Verdict.join, or_and_right, or_assoc]

/-- Of some siblings and their duals exactly one holds. By induction on the siblings after the first one,
which joins the next. -/
theorem siblingsHold_map_dual {verdicts : List Verdict} (some_verdict : verdicts ≠ [])
    : SiblingsHold (verdicts.map Verdict.dual) ↔ ¬ SiblingsHold verdicts := by
  obtain ⟨first, rest, rfl⟩ := List.exists_cons_of_ne_nil some_verdict
  clear some_verdict
  induction rest generalizing first with
  | nil => simp [siblingsHold_cons, BoundHold, UnboundStart, Verdict.dual]
  | cons next rest ih =>
      rw [List.map_cons, List.map_cons, siblingsHold_cons_cons, siblingsHold_cons_cons,
        ← Verdict.dual_join, ← List.map_cons, ih]

theorem siblingsHold_map_dualIf (turned : Bool) {verdicts : List Verdict}
    (some_verdict : verdicts ≠ [])
    : decide (SiblingsHold (verdicts.map (Verdict.dualIf turned)))
      = (turned ^^ decide (SiblingsHold verdicts)) := by
  cases turned with
  | false =>
      have unchanged : verdicts.map (Verdict.dualIf false) = verdicts := List.map_id'' (fun _ => rfl) _
      rw [unchanged, Bool.false_xor]
  | true =>
      have turnedAll : verdicts.map (Verdict.dualIf true) = verdicts.map Verdict.dual := rfl
      rw [turnedAll, Bool.true_xor, ← decide_not]
      exact decide_eq_decide.mpr (siblingsHold_map_dual some_verdict)

-----------------------------------------------------------------------------------------
-- Trees and their duals
-----------------------------------------------------------------------------------------

namespace Node

/-- The node that is negated if it was not, and the other way round, and joined to the node after it by the
other connector. -/
def dual (node : Node) : Node :=
  node.negated.joinedBy node.connector.dual

def dualIf (turned : Bool) (node : Node) : Node :=
  if turned then node.dual else node

mutual

/-- The node with the negations of its groups pushed down to the clauses, and with it a negation from
further up if it is `turned`. -/
def pushNegation (turned : Bool) : Node → Node
  | node@⟨_, _, _, _, _, none⟩ => node.dualIf turned
  | node@⟨_, _, _, negate, _, some children⟩ =>
      { node.dualIf turned with
        negate := false
        children := some (pushNegations (turned ^^ negate) children) }

def pushNegations (turned : Bool) : List Node → List Node
  | [] => []
  | node :: rest => node.pushNegation turned :: pushNegations turned rest

end

/-- The connector of a node turns with what is pushed down to it. -/
theorem connector_pushNegation (turned : Bool) (node : Node)
    : (node.pushNegation turned).connector
      = if turned then node.connector.dual else node.connector := by
  obtain ⟨path, comparison, tokens, negate, connector, children⟩ := node
  cases turned <;> cases children <;> rfl

mutual

/-- Every group at the node and below it has the property, which is one of its negation and its
children. -/
def EveryGroup (property : Bool → List Node → Prop) : Node → Prop
  | ⟨_, _, _, _, _, none⟩ => True
  | ⟨_, _, _, negate, _, some children⟩ =>
      property negate children ∧ EveryGroupAmong property children

def EveryGroupAmong (property : Bool → List Node → Prop) : List Node → Prop
  | [] => True
  | node :: rest => node.EveryGroup property ∧ EveryGroupAmong property rest

end

theorem leavesAll_append (nodes others : List Node)
    : leavesAll (nodes ++ others) = leavesAll nodes ++ leavesAll others := by
  induction nodes with
  | nil => rfl
  | cons node rest ih => rw [List.cons_append, leavesAll, leavesAll, ih, List.append_assoc]

/-- The dual of a node has the same clauses, up to their negation. -/
theorem leaves_dual (node : Node)
    : node.dual.leaves.map Clause.unnegated = node.leaves.map Clause.unnegated := by
  obtain ⟨path, comparison, tokens, negate, connector, children⟩ := node
  cases children <;> rfl

theorem leaves_dualIf (turned : Bool) (node : Node)
    : (node.dualIf turned).leaves.map Clause.unnegated = node.leaves.map Clause.unnegated := by
  cases turned with
  | false => rfl
  | true => exact node.leaves_dual

/-- The duals of nodes have the same clauses, up to their negation. By induction on the nodes. -/
theorem leavesAll_map_dual (nodes : List Node)
    : (leavesAll (nodes.map dual)).map Clause.unnegated
      = (leavesAll nodes).map Clause.unnegated := by
  induction nodes with
  | nil => rfl
  | cons node rest ih =>
      rw [List.map_cons, leavesAll, leavesAll, List.map_append, List.map_append, leaves_dual, ih]

mutual

/-- Pushing negations down changes nothing about the clauses but their negation. -/
theorem leaves_pushNegation (turned : Bool)
    : ∀ node : Node,
        (node.pushNegation turned).leaves.map Clause.unnegated
        = node.leaves.map Clause.unnegated
  | ⟨_, _, _, _, _, none⟩ => leaves_dualIf turned _
  | ⟨_, _, _, negate, _, some children⟩ => leavesAll_pushNegations (turned ^^ negate) children

theorem leavesAll_pushNegations (turned : Bool)
    : ∀ nodes : List Node,
        (leavesAll (pushNegations turned nodes)).map Clause.unnegated
        = (leavesAll nodes).map Clause.unnegated
  | [] => rfl
  | node :: rest => by
      rw [pushNegations, leavesAll, leavesAll, List.map_append, List.map_append,
        leaves_pushNegation, leavesAll_pushNegations]

end

mutual

/-- Where negations are pushed down, no group is negated any more. -/
theorem everyGroup_pushNegation (turned : Bool)
    : ∀ node : Node, (node.pushNegation turned).EveryGroup fun negate _ => negate = false
  | ⟨_, _, _, _, _, none⟩ => by cases turned <;> trivial
  | ⟨_, _, _, negate, _, some children⟩ =>
      ⟨rfl, everyGroupAmong_pushNegations (turned ^^ negate) children⟩

theorem everyGroupAmong_pushNegations (turned : Bool)
    : ∀ nodes : List Node,
        EveryGroupAmong (fun negate _ => negate = false) (pushNegations turned nodes)
  | [] => trivial
  | node :: rest =>
      ⟨everyGroup_pushNegation turned node, everyGroupAmong_pushNegations turned rest⟩

end

end Node

-----------------------------------------------------------------------------------------
-- What dual trees mean
-----------------------------------------------------------------------------------------

namespace Where

variable {schema : Schema} {owner : schema.Ty} {item : schema.Item owner} {nodes others : List Node}

/-- All of the clauses compile. -/
def LeavesCompile (schema : Schema) (owner : schema.Ty) (leaves : List Clause) : Prop :=
  ∀ leaf ∈ leaves, leaf.Compiles schema owner

/-- Without hooks a tree compiles exactly if its clauses do. -/
theorem exists_compile_iff
    : (∃ predicate, (compile schema owner {} nodes).outcome = .ok predicate)
      ↔ LeavesCompile schema owner (Node.leavesAll nodes) := by
  rw [← error?_eq_none, error?_compile, List.findSome?_eq_none_iff]
  exact forall₂_congr fun leaf _ => error?_eq_none

/-- Whether clauses compile does not depend on their negation. -/
theorem leavesCompile_congr {leaves others : List Clause}
    (same : leaves.map Clause.unnegated = others.map Clause.unnegated)
    : LeavesCompile schema owner leaves ↔ LeavesCompile schema owner others := by
  have unnegated (leaves : List Clause)
      : LeavesCompile schema owner leaves
        ↔ ∀ leaf ∈ leaves.map Clause.unnegated, leaf.Compiles schema owner := by
    rw [List.forall_mem_map]
    exact forall₂_congr fun leaf _ => Clause.compiles_unnegated.symm
  rw [unnegated leaves, unnegated others, same]

/-- A tree that compiles without hooks tests for what its topmost nodes amount to. -/
theorem compile_test_eq {predicate : Predicate (schema.Item owner)}
    (accepted : (compile schema owner {} nodes).outcome = .ok predicate)
    (item : schema.Item owner)
    : predicate.test item
      = decide (SiblingsHold (verdicts schema owner {} item nodes)) := by
  obtain ⟨parts, members, rfl⟩ :=
    compile_induction (fun _ _ => @verdict_of_accepted _ _ {} item rfl _ _) accepted
  rw [joinAll_test, map_verdict members]

/-- Trees with the same clauses up to their negation are interchangeable if their topmost nodes amount to
the same, where the clauses compile. -/
theorem interchangeable_of_verdicts
    (same : (Node.leavesAll nodes).map Clause.unnegated = (Node.leavesAll others).map Clause.unnegated)
    (amount
      : LeavesCompile schema owner (Node.leavesAll nodes) →
          ∀ item, verdicts schema owner {} item nodes = verdicts schema owner {} item others)
    : Interchangeable (compile schema owner {} nodes).outcome
        (compile schema owner {} others).outcome := by
  refine .of_tests ?_ fun one other made makes item => ?_
  · rw [exists_compile_iff, exists_compile_iff, leavesCompile_congr same]
  · rw [compile_test_eq made, compile_test_eq makes, amount (exists_compile_iff.mp ⟨one, made⟩)]

theorem verdicts_eq_map (nodes : List Node)
    : verdicts schema owner {} item nodes
      = nodes.map fun node => ⟨holds schema owner {} item node, node.connector⟩ := by
  induction nodes with
  | nil => rfl
  | cons node rest ih => rw [verdicts, ih, List.map_cons]

/-- The dual of a node means the opposite, at once for a group and by the negation of its clause
otherwise. -/
theorem holds_dual {node : Node} (compiles : LeavesCompile schema owner node.leaves)
    : holds schema owner {} item node.dual = !holds schema owner {} item node := by
  obtain ⟨path, comparison, tokens, negate, connector, children⟩ := node
  cases children with
  | none =>
      rw [holds_of_leaf rfl rfl, holds_of_leaf rfl rfl]
      exact Clause.holds_negate (compiles _ (List.mem_singleton_self _)) item
  | some children =>
      rw [holds_of_group rfl rfl, holds_of_group rfl rfl]
      exact Bool.not_xor _ _

theorem holds_dualIf (turned : Bool) {node : Node}
    (compiles : LeavesCompile schema owner node.leaves)
    : holds schema owner {} item (node.dualIf turned)
      = (turned ^^ holds schema owner {} item node) := by
  cases turned with
  | false => exact (Bool.false_xor _).symm
  | true => exact (holds_dual compiles).trans (Bool.true_xor _).symm

/-- Dual nodes amount to the dual of what the nodes amount to. -/
theorem verdicts_map_dual (compiles : LeavesCompile schema owner (Node.leavesAll nodes))
    : verdicts schema owner {} item (nodes.map Node.dual)
      = (verdicts schema owner {} item nodes).map Verdict.dual := by
  rw [verdicts_eq_map, verdicts_eq_map, List.map_map, List.map_map]
  refine List.map_congr_left fun node member => ?_
  have opposite : holds schema owner {} item node.dual = !holds schema owner {} item node :=
    holds_dual fun leaf below => compiles leaf (Node.leaves_subset member below)
  exact congrArg (Verdict.mk · node.connector.dual) opposite

mutual

/-- Pushing negations down from a node without empty groups changes nothing about its meaning, but that it
turns with what was pushed down to it. -/
theorem holds_pushNegation (turned : Bool)
    : ∀ {node : Node}, LeavesCompile schema owner node.leaves →
        (node.EveryGroup fun _ children => children ≠ []) →
        holds schema owner {} item (node.pushNegation turned)
        = (turned ^^ holds schema owner {} item node)
  | ⟨_, _, _, _, _, none⟩, compiles, _ => holds_dualIf turned compiles
  | ⟨_, _, _, negate, _, some children⟩, compiles, ⟨filled, below⟩ => by
      have some_verdict : verdicts schema owner {} item children ≠ [] := by
        rw [verdicts_eq_map]
        simpa using filled
      -- The group itself is not negated any more, its children are turned by both.
      refine ((holds_of_group rfl rfl).trans (Bool.false_xor _)).trans ?_
      rw [verdicts_pushNegations (turned ^^ negate) compiles below,
        siblingsHold_map_dualIf _ some_verdict, holds_of_group rfl rfl, Bool.xor_assoc]

theorem verdicts_pushNegations (turned : Bool)
    : ∀ {nodes : List Node}, LeavesCompile schema owner (Node.leavesAll nodes) →
        Node.EveryGroupAmong (fun _ children => children ≠ []) nodes →
        verdicts schema owner {} item (Node.pushNegations turned nodes)
        = (verdicts schema owner {} item nodes).map (Verdict.dualIf turned)
  | [], _, _ => rfl
  | node :: rest, compiles, ⟨filled, others⟩ => by
      obtain ⟨first, later⟩ := List.forall_mem_append.mp compiles
      rw [Node.pushNegations, verdicts, verdicts, List.map_cons, holds_pushNegation turned first filled,
        verdicts_pushNegations turned later others]
      rw [Node.connector_pushNegation]
      cases turned <;> simp [Verdict.dualIf, Verdict.dual]

end

/-- De Morgan's law. A negated group can stand for the group that is not, of its children each negated the
other way and joined by the other connector, wherever it stands among siblings. So can a tree for the one
in which all negations of groups are pushed down to the clauses, if no group is empty. It has the same
clauses up to their negation and no negated groups. -/
theorem compile_deMorgan (schema : Schema) (owner : schema.Ty)
    : (∀ (before after : List Node) (group : Node) (children : List Node), children ≠ [] →
        Interchangeable
          (compile schema owner {}
            (before ++ { group with negate := true, children := some children } :: after)).outcome
          (compile schema owner {}
            (before
              ++ { group with negate := false, children := some (children.map Node.dual) }
                :: after)).outcome)
      ∧ ∀ nodes, Node.EveryGroupAmong (fun _ children => children ≠ []) nodes →
          Node.EveryGroupAmong (fun negate _ => negate = false) (Node.pushNegations false nodes)
          ∧ (Node.leavesAll (Node.pushNegations false nodes)).map Clause.unnegated
            = (Node.leavesAll nodes).map Clause.unnegated
          ∧ Interchangeable (compile schema owner {} nodes).outcome
              (compile schema owner {} (Node.pushNegations false nodes)).outcome := by
  constructor
  · intro before after group children filled
    refine interchangeable_of_verdicts ?_ fun compiles item => ?_
    · simp only [Node.leavesAll_append, Node.leavesAll, List.map_append, Node.leaves_eq,
        Node.isGroup, Option.isSome_some, if_true, Option.getD_some, Node.leavesAll_map_dual]
    · rw [Node.leavesAll_append] at compiles
      obtain ⟨inner, -⟩ := List.forall_mem_append.mp (List.forall_mem_append.mp compiles).2
      have some_verdict : verdicts schema owner {} item children ≠ [] := by
        rw [verdicts_eq_map]
        simpa using filled
      have same
          : holds schema owner {} item { group with negate := true, children := some children }
            = holds schema owner {} item
                { group with negate := false, children := some (children.map Node.dual) } := by
        rw [holds_of_group rfl rfl, holds_of_group rfl rfl, verdicts_map_dual inner,
          decide_eq_decide.mpr (siblingsHold_map_dual some_verdict), decide_not, Bool.true_xor,
          Bool.false_xor]
      simp only [verdicts_eq_map, List.map_append, List.map_cons, same]
  · intro nodes filled
    refine ⟨Node.everyGroupAmong_pushNegations false nodes, Node.leavesAll_pushNegations false nodes, ?_⟩
    refine interchangeable_of_verdicts (Node.leavesAll_pushNegations false nodes).symm ?_
    intro compiles item
    rw [verdicts_pushNegations false compiles filled]
    exact (List.map_id'' (fun _ => rfl) _).symm

/-- All orders but those that are old, and those that are large and either Bob's or led to no order of nails
by the five. -/
def openSearch : List Node :=
  [(Node.group
      [(Node.leaf "customer" .equal ["Bob"]).joinedBy .or,
        (Node.group
          [Node.leaf "followUps[lines[quantity]]" .equal ["5"],
            Node.leaf "followUps[lines[article]]" .equal ["nail"]]).negated,
        (Node.leaf "lines[quantity]" .greaterThan ["30"]).joinedBy .or,
        Node.leaf "number" .lessThan ["5"]]).negated]

/-- The open search with no negated group. -/
def pushedSearch : List Node :=
  [Node.group
      [(Node.leaf "customer" .equal ["Bob"]).negated,
        (Node.group
          [Node.leaf "followUps[lines[quantity]]" .equal ["5"],
            Node.leaf "followUps[lines[article]]" .equal ["nail"]]).joinedBy .or,
        (Node.leaf "lines[quantity]" .greaterThan ["30"]).negated,
        ((Node.leaf "number" .lessThan ["5"]).negated).joinedBy .or]]

/-- The negations are pushed down through both groups, and an order that led to one of five nails is kept
by either search. -/
theorem compile_deMorgan_openSearch
    : Node.EveryGroupAmong (fun _ children => children ≠ []) openSearch
      ∧ Node.pushNegations false openSearch = pushedSearch
      ∧ ∃ one other,
          (compile Shop.schema .order {} openSearch).outcome = .ok one
          ∧ (compile Shop.schema .order {} pushedSearch).outcome = .ok other
          ∧ one.test Shop.order = true
          ∧ other.test Shop.order = true := by
  have filled : Node.EveryGroupAmong (fun _ children => children ≠ []) openSearch := by
    simp [openSearch, Node.EveryGroupAmong, Node.EveryGroup, Node.group, Node.leaf, Node.negated,
      Node.joinedBy]
  obtain ⟨-, -, alike⟩ := (compile_deMorgan Shop.schema .order).2 openSearch filled
  obtain ⟨one, made⟩ := exists_eq_ok (by decide +kernel
    : (compile Shop.schema .order {} openSearch).outcome.isOk = true)
  obtain ⟨other, makes, same⟩ := alike.exists_ok made
  have kept : one.test Shop.order = true := (compile_test_eq made Shop.order).trans (by decide +kernel)
  exact ⟨filled, rfl, one, other, made, makes, kept, (same Shop.order).symm.trans kept⟩

end Where

end TypedQuery
