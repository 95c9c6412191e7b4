import TypedQuery.Proofs.Clause.Elements
import TypedQuery.Proofs.Value.Alike
import TypedQuery.Proofs.Where.Composition

/-! What where trees read of items. A clause does not tell apart two items that agree on its path: items
with values there that are alike, or with equally many elements there that agree one by one on the path
in the bracket. So a tree does not tell apart items that agree on the paths of all its clauses.
-/

namespace TypedQuery

-----------------------------------------------------------------------------------------
-- Comparisons
-----------------------------------------------------------------------------------------

namespace ReadValue

variable {α : Type} {value : ReadValue α} {left right : α}

/-- A comparison with an operand does not tell apart items whose values are alike. -/
theorem compare_test_eq (alike : (value.read left).Alike (value.read right)) (op : CompareOp)
    (operand : Value)
    : (value.compare op operand).test left = (value.compare op operand).test right :=
  alike.holds_eq op operand

/-- The search for a value among operands does not tell apart items whose values are alike. -/
theorem isIn_test_eq (alike : (value.read left).Alike (value.read right)) (operands : List Value)
    : (value.isIn operands).test left = (value.isIn operands).test right := by
  have equals : (value.read left).equals = (value.read right).equals := funext alike.equals_eq
  simp only [isIn, equals]

/-- No comparison tells apart items whose values are alike, however it is made. -/
theorem Built.test_eq {comparison : Comparison} {tokens : List Token} {predicate : Predicate α}
    (built : Built value tokens comparison predicate)
    (alike : (value.read left).Alike (value.read right))
    : predicate.test left = predicate.test right := by
  cases built with
  | isIn converted => exact isIn_test_eq alike _
  | notIn converted => exact congrArg Bool.not (isIn_test_eq alike _)
  | between converted =>
      unfold ReadValue.between
      split
      · exact compare_test_eq alike _ _
      · exact congrArg₂ Bool.and (compare_test_eq alike _ _) (compare_test_eq alike _ _)
  | text searches => simp only [ReadValue.text, alike.text?_eq]
  | like => simp only [ReadValue.like, alike.text?_eq]
  | compare compares converted => exact compare_test_eq alike _ _

end ReadValue

-----------------------------------------------------------------------------------------
-- Agreement on paths
-----------------------------------------------------------------------------------------

/-- Two items agree on a path. They have values there that are alike; or they have equally many elements in
the collection before a bracket, none if a link to it is missing, and each of them agrees with its
counterpart on the path in the bracket. -/
inductive Schema.Agree (schema : Schema)
    : (owner : schema.Ty) → String → schema.Item owner → schema.Item owner → Prop where
  | value {owner path kind nullable read left right}
      (leads : resolve schema owner path = .ok (.value kind nullable read))
      (alike : (read left).Alike (read right))
      : schema.Agree owner path left right
  | elements {owner dotted element left right} {collection : Collection schema owner}
      (bare : '[' ∉ dotted.toList)
      (reached : schema.collectionAt? owner (Path.names dotted) = some collection)
      (lengths : (collection.gather left).length = (collection.gather right).length)
      (agree
        : ∀ pair ∈ (collection.gather left).zip (collection.gather right),
            schema.Agree collection.element element pair.1 pair.2)
      : schema.Agree owner (dotted ++ "[" ++ element ++ "]") left right

/-- A condition that holds of elements exactly if it holds of their counterparts holds of some of the ones
exactly if it holds of some of the others. -/
theorem any_eq_of_zip {α : Type} {condition : α → Bool} {left right : List α}
    (lengths : left.length = right.length)
    (same : ∀ pair ∈ left.zip right, condition pair.1 = condition pair.2)
    : left.any condition = right.any condition := by
  have pairs : List.Forall₂ (fun first second => condition first = condition second) left right :=
    List.forall₂_iff_zip.mpr ⟨lengths, fun member => same _ member⟩
  clear lengths same
  induction pairs with
  | nil => rfl
  | cons same _ ih => rw [List.any_cons, List.any_cons, same, ih]

/-- Connectives do not tell apart items that their parts do not tell apart. -/
theorem connected_test_eq {α : Type} (left right : α)
    : Connected fun predicate : Predicate α => predicate.test left = predicate.test right where
  never := rfl
  not same := congrArg Bool.not same
  and first second := congrArg₂ Bool.and first second
  or first second := congrArg₂ Bool.or first second

/-- A clause does not tell apart items that agree on its path, by induction on how they agree: a bracket
takes the question to the elements and their counterparts. -/
theorem Schema.Agree.test_eq {schema : Schema} {owner : schema.Ty} {path : String}
    {left right : schema.Item owner} (agree : schema.Agree owner path left right)
    {comparison : Comparison} {tokens : List Token} {negate : Bool}
    {predicate : Predicate (schema.Item owner)}
    (compiled : Clause.compile schema owner ⟨path, comparison, tokens, negate⟩ = .ok predicate)
    : predicate.test left = predicate.test right := by
  induction agree generalizing negate with
  | value leads alike =>
      obtain ⟨target, positive, resolved, made, rfl⟩ := Clause.compile_eq_ok.mp compiled
      cases leads.symm.trans resolved
      obtain ⟨-, built⟩ := ReadValue.predicate_eq_ok.mp made
      exact (connected_test_eq _ _).negatedIf (built.test_eq alike) negate
  | elements bare reached lengths agree ih =>
      obtain ⟨-, collection, inner, leads, compiledInner, rfl⟩ :=
        (Clause.compile_bracketed_eq_ok bare).mp compiled
      cases reached.symm.trans leads
      refine (connected_test_eq _ _).negatedIf ?_ negate
      exact any_eq_of_zip lengths fun pair member => ih pair member compiledInner

/-- A where tree without hooks does not tell apart items that agree on the paths of its clauses. Only
paths that resolve matter. -/
theorem Where.test_eq_of_agree {schema : Schema} {owner : schema.Ty} {nodes : List Node}
    {predicate : Predicate (schema.Item owner)} {left right : schema.Item owner}
    (agree
      : ∀ leaf ∈ Node.leavesAll nodes,
          (∃ target, resolve schema owner leaf.path = .ok target) →
          schema.Agree owner leaf.path left right)
    (accepted : (Where.compile schema owner {} nodes).outcome = .ok predicate)
    : predicate.test left = predicate.test right := by
  refine (connected_test_eq left right).of_compile (fun leaf member positive compiled => ?_) accepted
  obtain ⟨target, _, resolved, _⟩ := Clause.compile_eq_ok.mp compiled
  exact (agree leaf member ⟨target, resolved⟩).test_eq compiled

end TypedQuery
