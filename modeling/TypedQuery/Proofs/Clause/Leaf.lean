import TypedQuery.Clause
import TypedQuery.Proofs.Fallible

/-! What a comparison on one value can be compiled into. There are six ways, each with the tokens
it takes, and a comparison compiles exactly if it applies to the kind of value and one of the ways
is open to it.
-/

namespace TypedQuery

namespace Comparison

theorem checkFamily_eq_ok {comparison : Comparison} {family : Family}
    : comparison.checkFamily family = .ok () ↔ comparison.appliesTo family = true := by
  unfold checkFamily
  split <;> simp_all

theorem checkCount_eq_ok {comparison : Comparison} {count : Nat}
    : comparison.checkCount count = .ok () ↔ comparison.accepts count = true := by
  unfold checkCount
  split <;> simp_all

theorem checkSingle_eq_ok {comparison : Comparison} {family : Family}
    : comparison.checkSingle family = .ok ()
      ↔ comparison.appliesTo family = true ∧ comparison.arity = .single := by
  simp only [checkSingle, check_eq_ok, checkFamily_eq_ok]
  split <;> simp_all

theorem requireText_eq_ok {comparison : Comparison} {token : Token} {text : String}
    : comparison.requireText token = .ok text ↔ token = some text := by
  cases token <;> simp [requireText]

/-- A comparison that takes a single operand takes exactly one token. -/
theorem accepts_single {comparison : Comparison} {tokens : List Token}
    (single : comparison.arity = .single)
    : comparison.accepts tokens.length = true ↔ ∃ token, tokens = [token] := by
  simp [accepts, single, List.length_eq_one_iff]

end Comparison

/-- Texts are a family of their own. -/
theorem Kind.eq_text_of_family {kind : Kind} (texts : kind.family = .text) : kind = .text := by
  cases kind <;> first | rfl | cases texts

/-- All tokens denote values exactly if each does, in order. -/
theorem Kind.convertAll_eq_ok {kind : Kind} {nullable : Bool} {tokens : List Token}
    {operands : List Value}
    : kind.convertAll nullable tokens = .ok operands
      ↔ List.Forall₂ (fun token operand => kind.convert nullable token = .ok operand) tokens
          operands :=
  mapM_eq_ok

namespace ReadValue

variable {α : Type}

/-- The ways to compile a comparison on a value that it applies to. -/
inductive Built (value : ReadValue α) : List Token → Comparison → Predicate α → Prop
  | isIn {tokens operands}
    (converted : value.kind.convertAll value.nullable tokens = .ok operands)
    : Built value tokens .isIn (value.isIn operands)
  | notIn {tokens operands}
    (converted : value.kind.convertAll value.nullable tokens = .ok operands)
    : Built value tokens .notIn (value.isIn operands).not
  | between {tokens low high}
    (converted : value.kind.convertAll value.nullable tokens = .ok [low, high])
    : Built value tokens .between (value.between low high)
  | text {comparison op needle} (searches : comparison.textOp? = some op)
    : Built value [some needle] comparison (value.text op needle)
  | like {pattern}
    : Built value [some pattern] .like (value.like pattern)
  | compare {comparison op token operand} (compares : comparison.compareOp? = some op)
    (converted : value.kind.convert value.nullable token = .ok operand)
    : Built value [token] comparison (value.compare op operand)

variable {value : ReadValue α} {comparison : Comparison} {tokens : List Token}
  {predicate : Predicate α}

/-- Every way takes as many tokens as the comparison asks for. -/
theorem Built.accepts (built : Built value tokens comparison predicate)
    : comparison.accepts tokens.length = true := by
  cases built with
  | isIn converted | notIn converted | like => rfl
  | between converted =>
      have counted : tokens.length = 2 := (Kind.convertAll_eq_ok.mp converted).length_eq
      rw [counted]
      rfl
  | text searches => cases comparison <;> cases searches <;> rfl
  | compare compares converted => cases comparison <;> cases compares <;> rfl

/-- What takes a single operand compiles as a search, as a pattern or as a comparison of values. -/
theorem built_of_single (compiled : value.single comparison tokens = .ok predicate)
    : Built value tokens comparison predicate := by
  simp only [single, check_eq_ok, Comparison.checkSingle_eq_ok, Comparison.checkCount_eq_ok]
    at compiled
  obtain ⟨⟨-, arity⟩, counted, compiled⟩ := compiled
  obtain ⟨token, rfl⟩ := (Comparison.accepts_single arity).mp counted
  -- The operators are tried in this order, and a pattern is neither search nor comparison.
  cases searches : comparison.textOp? with
  | some op =>
      simp only [searches, bind_eq_ok, Comparison.requireText_eq_ok] at compiled
      obtain ⟨needle, token_eq, same⟩ := compiled
      obtain rfl : token = some needle := token_eq
      cases same
      exact .text searches
  | none =>
      by_cases likeness : comparison = .like
      · subst likeness
        simp only [searches, if_true, bind_eq_ok, Comparison.requireText_eq_ok] at compiled
        obtain ⟨pattern, token_eq, same⟩ := compiled
        obtain rfl : token = some pattern := token_eq
        cases same
        exact .like
      · cases compares : comparison.compareOp? with
        | none => simp [searches, likeness, compares] at compiled
        | some op =>
            simp only [searches, likeness, compares, if_false, bind_eq_ok] at compiled
            obtain ⟨operand, converted, same⟩ := compiled
            cases same
            exact .compare compares converted

/-- A comparison that takes a single operand and applies compiles in every way open to it. -/
theorem Built.single_eq (applies : comparison.appliesTo value.kind.family = true)
    (arity : comparison.arity = .single) (built : Built value tokens comparison predicate)
    : value.single comparison tokens = .ok predicate := by
  simp only [single, check_eq_ok, Comparison.checkSingle_eq_ok, Comparison.checkCount_eq_ok]
  refine ⟨⟨applies, arity⟩, built.accepts, ?_⟩
  cases built with
  | isIn converted | notIn converted | between converted => cases arity
  | text searches =>
      rw [searches]
      rfl
  | like => rfl
  | compare compares converted =>
      cases comparison <;> cases compares <;>
        simp only [Comparison.textOp?, Comparison.compareOp?, List.head?_cons, Option.join_some,
          converted, ok_bind] <;> rfl

/-- A comparison compiles exactly if it applies to the kind of value and one of the ways to compile
it is open, by cases on whether it takes a list, a pair or a single operand. -/
theorem predicate_eq_ok
    : value.predicate comparison tokens = .ok predicate
      ↔ comparison.appliesTo value.kind.family = true
        ∧ Built value tokens comparison predicate := by
  simp only [ReadValue.predicate, check_eq_ok, Comparison.checkFamily_eq_ok]
  refine and_congr_right fun applies => ?_
  cases arity : comparison.arity with
  | single =>
      have single : value.single comparison tokens = .ok predicate
          ↔ Built value tokens comparison predicate :=
        ⟨built_of_single, fun built => built.single_eq applies arity⟩
      cases comparison <;> first | exact single | cases arity
  | list =>
      cases comparison <;> cases arity
      all_goals
        simp only [bind_eq_ok]
        constructor
        · rintro ⟨operands, converted, same⟩
          cases same
          constructor
          exact converted
        · rintro (converted | converted | _ | searches | _ | compares)
          all_goals first
          | exact ⟨_, converted, rfl⟩
          | cases searches
          | cases compares
  | pair =>
      cases comparison <;> cases arity
      rw [check_eq_ok, Comparison.checkCount_eq_ok, bind_eq_ok]
      constructor
      · rintro ⟨-, operands, converted, same⟩
        split at same
        · next low high =>
          cases same
          exact .between converted
        · exact absurd same throw_ne_ok
      · intro built
        have counted := built.accepts
        cases built with
        | text searches => cases searches
        | compare compares => cases compares
        | between converted => exact ⟨counted, _, converted, rfl⟩

end ReadValue

namespace Target

variable {schema : Schema} {owner element : schema.Ty} {comparison : Comparison}
  {tokens : List Token}

/-- A comparison compiles only with as many tokens as it asks for, by induction on where its path
leads. -/
theorem accepts_of_predicate {target : Target schema owner} {path : String}
    {predicate : Predicate (schema.Item owner)}
    (compiled : target.predicate comparison tokens path = .ok predicate)
    : comparison.accepts tokens.length = true := by
  induction target generalizing path with
  | value kind nullable read => exact (ReadValue.predicate_eq_ok.mp compiled).2.accepts
  | elements dotted element gather elementPath inner ih =>
      rw [Target.predicate] at compiled
      split at compiled
      · exact Comparison.checkCount_eq_ok.mp (check_eq_ok.mp compiled).1
      · obtain ⟨predicate, compiled, -⟩ := bind_eq_ok.mp compiled
        exact ih compiled

/-- A comparison on elements compiles exactly if it does on each element. The number of tokens is
checked ahead of that, but it is the same check again. -/
theorem predicate_elements_eq_ok {dotted path elementPath : String}
    {gather : schema.Item owner → List (schema.Item element)} {inner : Target schema element}
    {predicate : Predicate (schema.Item owner)}
    : (Target.elements dotted element gather elementPath inner).predicate comparison tokens path
        = .ok predicate
      ↔ ∃ each, inner.predicate comparison tokens elementPath = .ok each
          ∧ Predicate.any dotted gather each = predicate := by
  have compiles
      : (do return Predicate.any dotted gather (← inner.predicate comparison tokens elementPath))
          = .ok predicate
        ↔ ∃ each, inner.predicate comparison tokens elementPath = .ok each
            ∧ Predicate.any dotted gather each = predicate := by
    simp only [bind_eq_ok, pure, Except.pure, Except.ok.injEq]
  rw [Target.predicate]
  split
  · rw [check_eq_ok, compiles, Comparison.checkCount_eq_ok]
    refine and_iff_right_of_imp fun ⟨each, compiled, _⟩ => accepts_of_predicate compiled
  · exact compiles

end Target

namespace Clause

variable {schema : Schema} {owner : schema.Ty} {path : String} {comparison : Comparison}
  {tokens : List Token} {predicate : Predicate (schema.Item owner)}

/-- A clause compiles exactly if its path resolves and its comparison can be made on the target; its
negation is put on top of that. -/
theorem compile_eq_ok {clause : Clause}
    : clause.compile schema owner = .ok predicate
      ↔ ∃ target positive, resolve schema owner clause.path = .ok target
          ∧ target.predicate clause.comparison clause.tokens clause.path = .ok positive
          ∧ positive.negatedIf clause.negate = predicate := by
  have negated
      : clause.compile schema owner = .ok predicate
        ↔ ∃ positive, clause.positive schema owner = .ok positive
            ∧ positive.negatedIf clause.negate = predicate := by
    unfold Clause.compile
    split <;> simp_all
  have positive_eq_ok {positive : Predicate (schema.Item owner)}
      : clause.positive schema owner = .ok positive
        ↔ ∃ target, resolve schema owner clause.path = .ok target
            ∧ target.predicate clause.comparison clause.tokens clause.path = .ok positive := by
    constructor
    · intro made
      obtain ⟨accessor, resolved, built⟩ := bind_eq_ok.mp made
      obtain ⟨target, leads, rfl⟩ := map_eq_ok.mp resolved
      exact ⟨target, leads, built⟩
    · rintro ⟨target, leads, built⟩
      exact bind_eq_ok.mpr ⟨⟨clause.path, target⟩, map_eq_ok.mpr ⟨target, leads, rfl⟩, built⟩
  rw [negated]
  constructor
  · rintro ⟨positive, made, same⟩
    obtain ⟨target, leads, built⟩ := positive_eq_ok.mp made
    exact ⟨target, positive, leads, built, same⟩
  · rintro ⟨target, positive, leads, built, same⟩
    exact ⟨positive, positive_eq_ok.mpr ⟨target, leads, built⟩, same⟩

/-- A clause without negation compiles exactly if its path resolves and its comparison can be made on
the target. -/
theorem compile_unnegated_eq_ok
    : Clause.compile schema owner ⟨path, comparison, tokens, false⟩ = .ok predicate
      ↔ ∃ target, resolve schema owner path = .ok target
          ∧ target.predicate comparison tokens path = .ok predicate := by
  simp [compile_eq_ok, Predicate.negatedIf]

/-- A clause on a value compiles, without negation, exactly if the comparison applies to the kind of
value and one of the ways to compile it is open. -/
theorem compile_of_value {kind : Kind} {nullable : Bool} {read : schema.Item owner → Value}
    (leads : resolve schema owner path = .ok (.value kind nullable read))
    : Clause.compile schema owner ⟨path, comparison, tokens, false⟩ = .ok predicate
      ↔ comparison.appliesTo kind.family = true
        ∧ ReadValue.Built ⟨path, kind, nullable, read⟩ tokens comparison predicate := by
  rw [compile_unnegated_eq_ok]
  simp only [leads, Except.ok.injEq, ↓existsAndEq, true_and, Target.predicate]
  exact ReadValue.predicate_eq_ok

end Clause

end TypedQuery
