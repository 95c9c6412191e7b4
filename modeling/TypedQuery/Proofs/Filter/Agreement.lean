import TypedQuery.Proofs.Filter.Meaning
import TypedQuery.Proofs.Where.Composition

/-! Predicates and their filters. A store that reads the filter of an accepted where tree keeps the
items that the predicate keeps in memory, however links, brackets and groups are nested.
-/

namespace TypedQuery

variable {schema : Schema} {owner : schema.Ty}

/-- Predicates that are told by their filters compose. -/
theorem told_composable (schema : Schema) : Composable schema (Told schema) where
  never _ := .constant false
  not := .not
  and := .and
  or := .or
  any := .any
  compared resolved _ built :=
    .built (fun _ => by simp [Schema.valueAt?, Accessor.resolve, resolved, Except.map, Accessor.read?])
      built

/-- A clause that compiles is told by its filter, with its negation. -/
theorem Clause.told_of_compile {clause : Clause} {predicate : Predicate (schema.Item owner)}
    (compiled : clause.compile schema owner = .ok predicate)
    : Told schema owner predicate :=
  (told_composable schema).of_clause compiled

namespace Where

/-- Siblings that compile to predicates told by their filters are told as joined. -/
theorem told_joinAll {nodes : List Node} {parts : List (Part (schema.Item owner))}
    (members : List.Forall₂ (fun _ part => Told schema owner part.predicate) nodes parts)
    : Told schema owner (joinAll parts) :=
  (told_composable schema).joinAll members

/-- The test of an accepted where tree and its filter decide the same condition: on every item the
filter, read against the schema alone, has an answer, and it is that of the test. -/
theorem compile_filter_eval? {nodes : List Node} {predicate : Predicate (schema.Item owner)}
    (accepted : (compile schema owner {} nodes).outcome = .ok predicate)
    (item : schema.Item owner)
    : predicate.filter.eval? schema owner item = some (predicate.test item) := by
  have step (received : Node) (part : Part (schema.Item owner))
      (derived : Accepted {} (fun _ part => Told schema owner part.predicate) received part)
      : Told schema owner part.predicate := by
    cases derived with
    | supplied edited provided => cases provided
    | clause edited provided leaf made => exact Clause.told_of_compile made
    | group edited provided nested members =>
        exact (told_joinAll members).negatedIf _
  obtain ⟨parts, members, rfl⟩ := compile_induction step accepted
  exact told_joinAll members item

/-- Orders whose gift is not a single piece and that led to an order of five nails. -/
theorem compile_filter_eval?_followUps
    : ∃ predicate,
        (compile Shop.schema .order {}
            [(Node.leaf "gift.quantity" .equal ["1"]).negated,
              Node.group
                [Node.leaf "followUps[lines[quantity]]" .between ["5", "5"],
                  Node.leaf "followUps[lines[article]]" .like ["n%l"]]]).outcome
          = .ok predicate
        ∧ predicate.filter.eval? Shop.schema .order Shop.order
          = some (predicate.test Shop.order) := by
  obtain ⟨predicate, accepted⟩ := exists_eq_ok (by decide +kernel
    : (compile Shop.schema .order {}
        [(Node.leaf "gift.quantity" .equal ["1"]).negated,
          Node.group
            [Node.leaf "followUps[lines[quantity]]" .between ["5", "5"],
              Node.leaf "followUps[lines[article]]" .like ["n%l"]]]).outcome.isOk = true)
  exact ⟨predicate, accepted, compile_filter_eval? accepted Shop.order⟩

end Where

end TypedQuery
