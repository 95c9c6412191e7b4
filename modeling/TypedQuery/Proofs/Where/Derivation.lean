import TypedQuery.Proofs.Hooks.Outcome
import TypedQuery.Where.Compile

/-! How a where tree is accepted. A node is accepted in one of three ways: the provider stands in
for it, its clause compiles, or it is a group of accepted nodes. Whatever is preserved by these
three ways holds of every accepted tree.
-/

namespace TypedQuery

namespace Where

variable {schema : Schema} {owner : schema.Ty} {hooks : Hooks (schema.Item owner)}

/-- One way to accept a received node with a part, where `known` tells what is known of the parts
of its children. -/
inductive Accepted (hooks : Hooks (schema.Item owner))
    (known : Node → Part (schema.Item owner) → Prop)
    : Node → Part (schema.Item owner) → Prop
  | supplied {received node predicate}
    (edited : (hooks.preprocess received).outcome = .ok node)
    (provided : (hooks.provide node).outcome = .ok (some predicate))
    : Accepted hooks known received ⟨predicate, node.connector⟩
  | clause {received node predicate}
    (edited : (hooks.preprocess received).outcome = .ok node)
    (provided : (hooks.provide node).outcome = .ok none)
    (leaf : node.children = none)
    (compiled : node.clause.compile schema owner = .ok predicate)
    : Accepted hooks known received ⟨predicate, node.connector⟩
  | group {received node children parts}
    (edited : (hooks.preprocess received).outcome = .ok node)
    (provided : (hooks.provide node).outcome = .ok none)
    (nested : node.children = some children)
    (members : List.Forall₂ known children parts)
    : Accepted hooks known received ⟨(joinAll parts).negatedIf node.negate, node.connector⟩

/-- A node that compiles is accepted in one of the three ways, with its children compiled at a
smaller depth. -/
theorem accepted_of_compileNode {depth : Nat} {received : Node} {part : Part (schema.Item owner)}
    (compiled : (compileNode schema owner hooks depth received).outcome = .ok part)
    : Accepted hooks
        (fun child part =>
          ∃ smaller < depth, (compileNode schema owner hooks smaller child).outcome = .ok part)
        received part := by
  unfold compileNode at compiled
  simp only [Traced.outcome_bind, bind_eq_ok] at compiled
  obtain ⟨node, edited, answer, provided, compiled⟩ := compiled
  cases answer with
  | some predicate =>
      cases compiled
      exact .supplied edited provided
  | none =>
      cases nested : node.children with
      | none =>
          simp only [nested, Traced.outcome_bind, Traced.outcome_ofExcept, bind_eq_ok] at compiled
          obtain ⟨predicate, compiled, same⟩ := compiled
          cases same
          exact .clause edited provided nested compiled
      | some children =>
          cases depth with
          | zero => simp [nested] at compiled
          | succ depth =>
              simp only [nested, Traced.outcome_bind, Traced.outcome_mapM, bind_eq_ok, mapM_eq_ok]
                at compiled
              obtain ⟨parts, members, same⟩ := compiled
              cases same
              exact .group edited provided nested
                (members.imp fun _ _ compiled => ⟨depth, depth.lt_succ_self, compiled⟩)

/-- What the three ways of acceptance preserve holds of every node that compiles, by induction on
the depth. -/
theorem compileNode_induction {motive : Node → Part (schema.Item owner) → Prop}
    (step : ∀ received part, Accepted hooks motive received part → motive received part)
    {depth : Nat} {received : Node} {part : Part (schema.Item owner)}
    (compiled : (compileNode schema owner hooks depth received).outcome = .ok part)
    : motive received part := by
  induction depth using Nat.strongRecOn generalizing received part with
  | _ depth ih =>
      refine step received part ?_
      cases accepted_of_compileNode compiled with
      | supplied edited provided => exact .supplied edited provided
      | clause edited provided leaf made => exact .clause edited provided leaf made
      | group edited provided nested members =>
          refine .group edited provided nested (members.imp ?_)
          rintro child part ⟨smaller, below, compiled⟩
          exact ih smaller below compiled

/-- An accepted tree joins the parts of its nodes, of each of which holds what the three ways of
acceptance preserve. -/
theorem compile_induction {motive : Node → Part (schema.Item owner) → Prop}
    (step : ∀ received part, Accepted hooks motive received part → motive received part)
    {nodes : List Node} {predicate : Predicate (schema.Item owner)}
    (compiled : (compile schema owner hooks nodes).outcome = .ok predicate)
    : ∃ parts, List.Forall₂ motive nodes parts ∧ predicate = joinAll parts := by
  simp only [compile, Traced.outcome_bind, Traced.outcome_mapM, bind_eq_ok, mapM_eq_ok] at compiled
  obtain ⟨parts, members, same⟩ := compiled
  cases same
  exact ⟨parts, members.imp fun _ _ compiled => compileNode_induction step compiled, rfl⟩

end Where

end TypedQuery
