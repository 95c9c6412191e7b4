import TypedQuery.Proofs.Accessor.Resolution
import TypedQuery.Proofs.Where.Derivation
import TypedQuery.Proofs.Where.Siblings

/-! What a where tree means for an item. A node means what the provider puts in its place, else
what its clause says, else what its children amount to, turned around if it is negated. An accepted
tree tests an item for exactly what its topmost nodes amount to.
-/

namespace TypedQuery

/-- Whether an item satisfies a clause; one that does not compile is satisfied by none. -/
def Clause.holds (schema : Schema) (owner : schema.Ty) (clause : Clause)
    (item : schema.Item owner)
    : Bool :=
  match clause.compile schema owner with
  | .ok predicate => predicate.test item
  | .error _ => false

namespace Where

section Meaning

variable (schema : Schema) (owner : schema.Ty) (hooks : Hooks (schema.Item owner))
  (item : schema.Item owner)

mutual

/-- Whether a node holds of an item. The negation of a node that the provider stands in for is
ignored; that of a clause is part of the clause. -/
def holds : Node → Bool
  | node@⟨_, _, _, _, _, none⟩ =>
      match hooks.supplied? node with
      | some predicate => predicate.test item
      | none => node.clause.holds schema owner item
  | node@⟨_, _, _, negate, _, some children⟩ =>
      match hooks.supplied? node with
      | some predicate => predicate.test item
      | none => negate ^^ decide (SiblingsHold (verdicts children))

/-- What each of several siblings amounts to for an item. -/
def verdicts : List Node → List Verdict
  | [] => []
  | node :: rest => ⟨holds node, node.connector⟩ :: verdicts rest

end

variable {schema owner hooks item}

theorem holds_of_supplied {node : Node} {predicate : Predicate (schema.Item owner)}
    (supplied : hooks.supplied? node = some predicate)
    : holds schema owner hooks item node = predicate.test item := by
  obtain ⟨path, comparison, tokens, negate, connector, children⟩ := node
  cases children <;> simp [holds, supplied]

theorem holds_of_leaf {node : Node} (supplied : hooks.supplied? node = none)
    (leaf : node.children = none)
    : holds schema owner hooks item node = node.clause.holds schema owner item := by
  obtain ⟨path, comparison, tokens, negate, connector, children⟩ := node
  cases leaf
  simp [holds, supplied]

theorem holds_of_group {node : Node} {children : List Node}
    (supplied : hooks.supplied? node = none) (nested : node.children = some children)
    : holds schema owner hooks item node
      = (node.negate ^^ decide (SiblingsHold (verdicts schema owner hooks item children))) := by
  obtain ⟨path, comparison, tokens, negate, connector, _⟩ := node
  cases nested
  simp [holds, supplied]

/-- Compiled siblings amount to what the nodes they come from amount to, by induction on the
siblings. -/
theorem map_verdict {nodes : List Node} {parts : List (Part (schema.Item owner))}
    (members
      : List.Forall₂
          (fun node part =>
            part.verdict item = ⟨holds schema owner hooks item node, node.connector⟩)
          nodes parts)
    : parts.map (Part.verdict · item) = verdicts schema owner hooks item nodes := by
  induction members with
  | nil => rfl
  | cons same _ ih => rw [List.map_cons, same, ih, verdicts]

/-- Without a preprocessor, a compiled node amounts to what the node it comes from amounts to. -/
theorem verdict_of_accepted (unedited : hooks.preprocessor = none) {received : Node}
    {part : Part (schema.Item owner)}
    (accepted
      : Accepted hooks
          (fun node part =>
            part.verdict item = ⟨holds schema owner hooks item node, node.connector⟩)
          received part)
    : part.verdict item = ⟨holds schema owner hooks item received, received.connector⟩ := by
  cases accepted with
  | supplied edited provided =>
      rw [Hooks.preprocess_of_none unedited] at edited
      cases edited
      rw [holds_of_supplied (Hooks.supplied?_of_provide provided), Part.verdict]
  | clause edited provided leaf compiled =>
      rw [Hooks.preprocess_of_none unedited] at edited
      cases edited
      rw [holds_of_leaf (Hooks.supplied?_of_provide provided) leaf, Part.verdict,
        Clause.holds, compiled]
  | group edited provided nested members =>
      rw [Hooks.preprocess_of_none unedited] at edited
      cases edited
      rw [holds_of_group (Hooks.supplied?_of_provide provided) nested,
        Part.verdict, Predicate.negatedIf_test, joinAll_test, map_verdict members]

end Meaning

/-- An accepted where tree keeps the items of which its topmost nodes hold, read as siblings at
every level, with the provider's predicates in place of the nodes it stands in for. The connector
of the last sibling plays no part in that, and no siblings at all never hold. -/
theorem compile_test_iff_siblingsHold {schema : Schema} {owner : schema.Ty}
    {hooks : Hooks (schema.Item owner)} {nodes : List Node}
    {predicate : Predicate (schema.Item owner)}
    (unedited : hooks.preprocessor = none)
    (accepted : (compile schema owner hooks nodes).outcome = .ok predicate)
    : (∀ item,
        predicate.test item = true
        ↔ SiblingsHold (verdicts schema owner hooks item nodes))
      ∧ (∀ verdicts holds left right,
          SiblingsHold (verdicts ++ [⟨holds, left⟩]) ↔ SiblingsHold (verdicts ++ [⟨holds, right⟩]))
      ∧ ¬ SiblingsHold [] := by
  refine ⟨fun item => ?_, siblingsHold_append_last, not_siblingsHold_nil⟩
  have step (received : Node) (part : Part (schema.Item owner))
      (derived
        : Accepted hooks
            (fun node part =>
              part.verdict item = ⟨holds schema owner hooks item node, node.connector⟩)
            received part)
      : part.verdict item = ⟨holds schema owner hooks item received, received.connector⟩ :=
    verdict_of_accepted unedited derived
  obtain ⟨parts, members, rfl⟩ := compile_induction step accepted
  rw [joinAll_test_iff, map_verdict members]

/-- A customer who sees only orders of her own, whatever the node says. -/
def ownOrders (node : Node) : Except String (Option (Predicate Shop.Order)) :=
  .ok
    (if node.path = "own" then some (.custom "own" fun order => order.customer == "Ann")
    else none)

/-- Bob's orders, or those of nails among the customer's own that came without a large gift. -/
def orderSearch : List Node :=
  [(Node.leaf "customer" .equal ["Bob"]).joinedBy .or,
    Node.leaf "lines[article]" .startsWith ["n"],
    (Node.leaf "own" .like []).negated,
    (Node.group
      [(Node.leaf "gift.quantity" .greaterThan ["2"]).joinedBy .or, Node.group []]).negated]

theorem orderSearch_test_iff_siblingsHold
    : ∃ predicate,
        (compile Shop.schema .order { provider := some ownOrders } orderSearch).outcome
          = .ok predicate
        ∧ predicate.test Shop.order = true := by
  obtain ⟨predicate, accepted⟩ := exists_eq_ok (by decide +kernel
    : (compile Shop.schema .order { provider := some ownOrders } orderSearch).outcome.isOk = true)
  have meaning := (compile_test_iff_siblingsHold rfl accepted).1 Shop.order
  exact ⟨predicate, accepted, meaning.mpr (by decide +kernel)⟩

end Where

end TypedQuery
