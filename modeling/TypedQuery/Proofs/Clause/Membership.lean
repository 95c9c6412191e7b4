import TypedQuery.Proofs.Clause.Acceptance
import TypedQuery.Proofs.Clause.Equivalence

/-! Equality and membership. On a value, to be among some tokens is to be equal to one of them, and to be
among none is to be different from each, null like any other. The two are built from different parts, and
agree because all tokens are converted alike and null equals null alone.
-/

namespace TypedQuery

namespace Clause

/-- The clause that some tokens compare in this way with what is at the path. -/
def asserting (path : String) (comparison : Comparison) (tokens : List Token) : Clause :=
  ⟨path, comparison, tokens, false⟩

section Value

variable {schema : Schema} {owner : schema.Ty} {path : String} {kind : Kind} {nullable : Bool}
  {read : schema.Item owner → Value} {tokens others : List Token} {token : Token}
  {item : schema.Item owner}
  (leads : resolve schema owner path = .ok (.value kind nullable read))

include leads

/-- A clause about equality with tokens is accepted exactly if each of them denotes a value. -/
theorem compiles_of_equality (comparison : Comparison) (tokens : List Token)
    (equality : comparison ∈ [.equal, .notEqual, .isIn, .notIn])
    (counted : comparison.TakesCount tokens.length)
    : (asserting path comparison tokens).Compiles schema owner
      ↔ ∀ token ∈ tokens, kind.Converts nullable token := by
  have placed : ¬ comparison.Misplaced kind tokens := by
    refine Comparison.not_misplaced ?_ counted fun searches => ?_
    · simp only [List.mem_cons, List.not_mem_nil, or_false] at equality
      rcases equality with rfl | rfl | rfl | rfl <;> cases kind.family <;> decide
    · simp only [List.mem_cons, List.not_mem_nil, or_false] at equality searches
      rcases equality with rfl | rfl | rfl | rfl <;> simp at searches
  have built
      : (asserting path comparison tokens).Compiles schema owner
        ↔ ∃ predicate,
            (ReadValue.mk path kind nullable read).predicate comparison tokens = .ok predicate := by
    refine exists_congr fun predicate => ?_
    rw [asserting, compile_of_value leads, ReadValue.predicate_eq_ok]
  rw [built, ((ReadValue.mk path kind nullable read).judged_predicate comparison tokens).accepted_iff]
  exact and_iff_right placed

/-- A value equals a token exactly if it equals what the token denotes. -/
theorem holds_equal_iff
    : (asserting path .equal [token]).holds schema owner item = true
      ↔ ∃ operand, kind.convert nullable token = .ok operand
          ∧ (read item).equals operand = true := by
  rw [holds_iff]
  constructor
  · rintro ⟨predicate, compiled, kept⟩
    cases ((compile_of_value leads).mp compiled).2 with
    | text searches => cases searches
    | compare compares converted =>
        cases compares
        exact ⟨_, converted, kept⟩
  · rintro ⟨operand, converted, kept⟩
    refine ⟨_, (compile_of_value leads).mpr ⟨?_, .compare rfl converted⟩, kept⟩
    cases kind.family <;> rfl

/-- A value is among the tokens exactly if it equals one of them. -/
theorem holds_isIn_iff (compiles : (asserting path .isIn tokens).Compiles schema owner)
    : (asserting path .isIn tokens).holds schema owner item = true
      ↔ ∃ token ∈ tokens, (asserting path .equal [token]).holds schema owner item = true := by
  obtain ⟨predicate, compiled⟩ := compiles
  rw [holds_of_compile compiled]
  cases ((compile_of_value leads).mp compiled).2 with
  | text searches => cases searches
  | compare compares converted => cases compares
  | isIn converted =>
      have pairs := Kind.convertAll_eq_ok.mp converted
      simp only [holds_equal_iff leads, ReadValue.isIn, List.any_eq_true]
      constructor
      · rintro ⟨operand, member, same⟩
        obtain ⟨token, among, converts⟩ := exists_of_mem_right pairs member
        exact ⟨token, among, operand, converts, same⟩
      · rintro ⟨token, among, operand, converts, same⟩
        obtain ⟨denoted, member, denotes⟩ := exists_of_mem_right pairs.flip among
        obtain rfl : operand = denoted := Except.ok.inj (converts.symm.trans denotes)
        exact ⟨operand, member, same⟩

/-- A comparison that keeps what another one does not can stand for the negation of the other. -/
theorem interchangeable_of_opposite {comparison opposed : Comparison}
    (compiles
      : (asserting path comparison tokens).Compiles schema owner
        ↔ (asserting path opposed tokens).Compiles schema owner)
    (opposite
      : ∀ {one other : Predicate (schema.Item owner)},
          ReadValue.Built ⟨path, kind, nullable, read⟩ tokens comparison one →
          ReadValue.Built ⟨path, kind, nullable, read⟩ tokens opposed other →
          ∀ item, one.test item = !other.test item)
    : Interchangeable ((asserting path comparison tokens).compile schema owner)
        (Clause.compile schema owner ⟨path, opposed, tokens, true⟩) := by
  have accepts
      : Clause.Compiles schema owner (unnegated ⟨path, opposed, tokens, true⟩)
        ↔ Clause.Compiles schema owner ⟨path, opposed, tokens, true⟩ :=
    compiles_unnegated
  refine .of_tests (compiles.trans accepts) fun one other made makes item => ?_
  obtain ⟨positive, positively, rfl⟩ := compile_eq_ok_iff_unnegated.mp makes
  exact opposite ((compile_of_value leads).mp made).2 ((compile_of_value leads).mp positively).2 item

/-- To be different is the negation of being equal. -/
theorem interchangeable_notEqual
    : Interchangeable ((asserting path .notEqual [token]).compile schema owner)
        (Clause.compile schema owner ⟨path, .equal, [token], true⟩) := by
  refine interchangeable_of_opposite leads ?_ fun differs equals item => ?_
  · rw [compiles_of_equality leads .notEqual [token] (by decide) rfl,
      compiles_of_equality leads .equal [token] (by decide) rfl]
  · cases differs with
    | text searches => cases searches
    | compare differs converted =>
        cases differs
        cases equals with
        | text searches => cases searches
        | compare equals converts =>
            cases equals
            obtain rfl := Except.ok.inj (converts.symm.trans converted)
            rfl

/-- To be among none is the negation of being among some. -/
theorem interchangeable_notIn
    : Interchangeable ((asserting path .notIn tokens).compile schema owner)
        (Clause.compile schema owner ⟨path, .isIn, tokens, true⟩) := by
  refine interchangeable_of_opposite leads ?_ fun outside inside item => ?_
  · rw [compiles_of_equality leads .notIn tokens (by decide) trivial,
      compiles_of_equality leads .isIn tokens (by decide) trivial]
  · cases outside with
    | text searches => cases searches
    | compare compares => cases compares
    | notIn converted =>
        cases inside with
        | text searches => cases searches
        | compare compares => cases compares
        | isIn converts =>
            obtain rfl := Except.ok.inj (converts.symm.trans converted)
            rfl

theorem compiles_notEqual_iff
    : (asserting path .notEqual [token]).Compiles schema owner
      ↔ (asserting path .equal [token]).Compiles schema owner :=
  (compiles_congr (interchangeable_notEqual leads)).trans compiles_unnegated.symm

theorem compiles_notIn_iff
    : (asserting path .notIn tokens).Compiles schema owner
      ↔ (asserting path .isIn tokens).Compiles schema owner :=
  (compiles_congr (interchangeable_notIn leads)).trans compiles_unnegated.symm

/-- Membership in some tokens is accepted exactly if equality with each of them is. -/
theorem compiles_isIn_iff
    : (asserting path .isIn tokens).Compiles schema owner
      ↔ ∀ token ∈ tokens, (asserting path .equal [token]).Compiles schema owner := by
  rw [compiles_of_equality leads .isIn tokens (by decide) trivial]
  refine forall₂_congr fun token _ => ?_
  rw [compiles_of_equality leads .equal [token] (by decide) rfl, List.forall_mem_singleton]

theorem holds_notEqual_iff (compiles : (asserting path .equal [token]).Compiles schema owner)
    : (asserting path .notEqual [token]).holds schema owner item = true
      ↔ ¬ (asserting path .equal [token]).holds schema owner item = true := by
  rw [holds_congr (interchangeable_notEqual leads), Bool.not_eq_true, ← Bool.not_eq_true']
  exact Bool.eq_iff_iff.mp (holds_negate compiles item)

/-- A value is among none of the tokens exactly if it is different from each. Neither is said of any value
where a token denotes none. -/
theorem holds_notIn_iff
    : (asserting path .notIn tokens).holds schema owner item = true
      ↔ ∀ token ∈ tokens, (asserting path .notEqual [token]).holds schema owner item = true := by
  have opposite (compiles : (asserting path .isIn tokens).Compiles schema owner)
      : (asserting path .notIn tokens).holds schema owner item = true
        ↔ ∀ token ∈ tokens,
            (asserting path .notEqual [token]).holds schema owner item = true := by
    have outside
        : (asserting path .notIn tokens).holds schema owner item
          = !(asserting path .isIn tokens).holds schema owner item :=
      (holds_congr (interchangeable_notIn leads)).trans (holds_negate compiles item)
    rw [outside, Bool.not_eq_true', ← Bool.not_eq_true, holds_isIn_iff leads compiles]
    push Not
    refine forall₂_congr fun token member => ?_
    exact (holds_notEqual_iff leads ((compiles_isIn_iff leads).mp compiles token member)).symm
  constructor
  · intro outside
    exact (opposite ((compiles_notIn_iff leads).mp (compiles_of_holds outside))).mp outside
  · intro different
    refine (opposite ((compiles_isIn_iff leads).mpr fun token member => ?_)).mpr different
    exact (compiles_notEqual_iff leads).mp (compiles_of_holds (different token member))

/-- Neither the order of the tokens nor their repetition matters to membership. -/
theorem interchangeable_of_same_tokens (same : ∀ token, token ∈ others ↔ token ∈ tokens)
    : Interchangeable ((asserting path .isIn tokens).compile schema owner)
        ((asserting path .isIn others).compile schema owner)
      ∧ Interchangeable ((asserting path .notIn tokens).compile schema owner)
          ((asserting path .notIn others).compile schema owner) := by
  have accepts
      : (asserting path .isIn tokens).Compiles schema owner
        ↔ (asserting path .isIn others).Compiles schema owner := by
    simp only [compiles_isIn_iff leads, same]
  constructor
  · refine interchangeable_of_holds accepts fun one other item => ?_
    simp only [holds_isIn_iff leads one, holds_isIn_iff leads other, same]
  · refine interchangeable_of_holds ?_ fun _ _ item => ?_
    · rw [compiles_notIn_iff leads, compiles_notIn_iff leads, accepts]
    · simp only [holds_notIn_iff leads, same]

end Value

/-- On a path to a value, membership and equality are one relation. Membership in some tokens is accepted
exactly if equality with each of them is, and then holds exactly if one of these does; the negative
comparisons hold exactly if the positive ones do not. So neither order nor repetition of the tokens counts,
and nothing is among no tokens, null included. -/
theorem compile_membership (schema : Schema) (owner : schema.Ty) (path : String)
    (accessor : Accessor schema owner) (resolved : Accessor.resolve schema owner path = .ok accessor)
    (value : accessor.isCollection = false)
    : (∀ tokens,
        ((asserting path .isIn tokens).Compiles schema owner
          ↔ ∀ token ∈ tokens, (asserting path .equal [token]).Compiles schema owner)
        ∧ ((asserting path .isIn tokens).Compiles schema owner →
            ∀ item,
              (asserting path .isIn tokens).holds schema owner item = true
              ↔ ∃ token ∈ tokens, (asserting path .equal [token]).holds schema owner item = true)
        ∧ (∀ item,
            (asserting path .notIn tokens).holds schema owner item = true
            ↔ ∀ token ∈ tokens,
                (asserting path .notEqual [token]).holds schema owner item = true)
        ∧ Interchangeable ((asserting path .notIn tokens).compile schema owner)
            (Clause.compile schema owner ⟨path, .isIn, tokens, true⟩)
        ∧ ∀ others, (∀ token, token ∈ others ↔ token ∈ tokens) →
            Interchangeable ((asserting path .isIn tokens).compile schema owner)
              ((asserting path .isIn others).compile schema owner)
            ∧ Interchangeable ((asserting path .notIn tokens).compile schema owner)
                ((asserting path .notIn others).compile schema owner))
      ∧ (∀ token,
          ((asserting path .notEqual [token]).Compiles schema owner
            ↔ (asserting path .equal [token]).Compiles schema owner)
          ∧ ((asserting path .equal [token]).Compiles schema owner →
              ∀ item,
                (asserting path .notEqual [token]).holds schema owner item = true
                ↔ ¬ (asserting path .equal [token]).holds schema owner item = true))
      ∧ (asserting path .isIn []).Compiles schema owner
      ∧ (∀ item, (asserting path .isIn []).holds schema owner item = false)
      ∧ (asserting path .notIn []).Compiles schema owner
      ∧ ∀ item, (asserting path .notIn []).holds schema owner item = true := by
  obtain ⟨target, leads, rfl⟩ := Accessor.resolve_eq_ok.mp resolved
  cases target with
  | elements => cases value
  | value kind nullable read =>
      have compiles_nil : (asserting path .isIn []).Compiles schema owner :=
        (compiles_isIn_iff leads).mpr (by simp)
      refine ⟨fun tokens => ⟨compiles_isIn_iff leads, fun compiles item => holds_isIn_iff leads compiles,
        fun item => holds_notIn_iff leads, interchangeable_notIn leads,
        fun others => interchangeable_of_same_tokens leads⟩,
        fun token =>
          ⟨compiles_notEqual_iff leads, fun compiles item => holds_notEqual_iff leads compiles⟩,
        compiles_nil, fun item => ?_, (compiles_notIn_iff leads).mpr compiles_nil, fun item => ?_⟩
      · rw [← Bool.not_eq_true, holds_isIn_iff leads compiles_nil]
        simp
      · rw [holds_notIn_iff leads]
        simp

/-- An order without a gift reads null as the quantity of the gift. Null is among tokens that null is one of,
and among none of two ways to write five. -/
theorem compile_membership_giftQuantity
    : ∃ accessor,
        Accessor.resolve Shop.schema .order "gift.quantity" = .ok accessor
        ∧ accessor.isCollection = false
        ∧ (asserting "gift.quantity" .isIn [some "5", none, some "+5"]).holds Shop.schema .order
            Shop.order = true
        ∧ (asserting "gift.quantity" .notIn [some "5", some "+5"]).holds Shop.schema .order
            Shop.order = true := by
  have parsed : Path.parse "gift.quantity" = .ok ⟨["gift", "quantity"], none⟩ := rfl
  have leads : resolve Shop.schema .order "gift.quantity" = .ok _ :=
    Follows.resolve_eq_ok parsed (.optionalObject rfl (.value rfl rfl))
  have resolved := Accessor.resolve_eq_ok.mpr ⟨_, leads, rfl⟩
  refine ⟨_, resolved, rfl, ?_, ?_⟩
  all_goals
    obtain ⟨laws, -⟩ := compile_membership Shop.schema .order "gift.quantity" _ resolved rfl
  · obtain ⟨accepted, kept, -⟩ := laws [some "5", none, some "+5"]
    have converts
        : ∀ token ∈ [some "5", none, some "+5"],
            ((asserting "gift.quantity" .equal [token]).compile Shop.schema .order).isOk = true := by
      decide +kernel
    have compiles := accepted.mpr fun token member => exists_eq_ok (converts token member)
    exact (kept compiles Shop.order).mpr ⟨none, by decide, by decide +kernel⟩
  · obtain ⟨-, -, kept, -⟩ := laws [some "5", some "+5"]
    exact (kept Shop.order).mpr (by decide +kernel)

end Clause

end TypedQuery
