import TypedQuery.Proofs.Accessor.Resolution
import TypedQuery.Proofs.Clause.Leaf
import TypedQuery.Proofs.Value.Comparison

/-! Ranges of values. A range is its two bounds, also where they are one value; only a range from
null to null is more than its bounds, since it keeps what reads null, and nothing lies above or
below null.
-/

namespace TypedQuery

-----------------------------------------------------------------------------------------
-- Orders and null
-----------------------------------------------------------------------------------------

namespace Comparison

/-- What asks for an order compiles into an operator that does. -/
theorem compareOp?_of_isOrdering {comparison : Comparison} (ordering : comparison.isOrdering = true)
    : ∃ op, comparison.compareOp? = some op ∧ op ≠ .eq ∧ op ≠ .ne := by
  cases comparison <;> cases ordering
  all_goals exact ⟨_, rfl, by decide, by decide⟩

end Comparison

/-- A range keeps what both bounds keep, and null if both bounds are null. Bounds that are the same
leave the fields that equal them, which are those that lie neither below nor above. -/
theorem ReadValue.between_test {α : Type} (value : ReadValue α) (low high : Value) (item : α)
    : (value.between low high).test item = true
      ↔ ((value.compare .gte low).test item = true ∧ (value.compare .lte high).test item = true)
        ∨ (low = .null ∧ high = .null ∧ value.read item = .null) := by
  unfold ReadValue.between
  split
  · next same =>
    by_cases empty : low = .null
    · subst empty
      have bothEmpty : high = .null := Value.null_same_iff.mp same
      simp [ReadValue.compare, CompareOp.holds, bothEmpty, Value.equals_null_iff]
    · simp only [ReadValue.compare, CompareOp.holds, Value.equals_of_ne_null empty,
        ← Value.compare?_congr same, empty, false_and, or_false]
      cases (value.read item).compare? low with
      | none => decide
      | some ordering => cases ordering <;> decide
  · next differ =>
    have filled : ¬ (low = .null ∧ high = .null ∧ value.read item = .null) := by
      rintro ⟨rfl, rfl, -⟩
      exact differ rfl
    simp only [filled, or_false]
    exact Bool.and_eq_true_iff

-----------------------------------------------------------------------------------------
-- Null tokens
-----------------------------------------------------------------------------------------

namespace Kind

/-- No text denotes null. -/
theorem valueOfText?_ne_null (kind : Kind) (raw : String) : kind.valueOfText? raw ≠ some .null := by
  cases kind <;> simp [valueOfText?]

/-- The token of null is the one that denotes null. -/
theorem null_iff_of_convert {kind : Kind} {nullable : Bool} {token : Token} {operand : Value}
    (converted : kind.convert nullable token = .ok operand)
    : operand = .null ↔ token = none := by
  cases token with
  | none =>
      simp only [convert] at converted
      split at converted <;> cases converted
      simp
  | some raw =>
      have filled : operand ≠ .null := by
        rintro rfl
        exact valueOfText?_ne_null kind raw (convert_some_eq_ok.mp converted)
      simp [filled]

end Kind

-----------------------------------------------------------------------------------------
-- Clauses on ordered values
-----------------------------------------------------------------------------------------

namespace ReadValue

variable {α : Type} {value : ReadValue α} {comparison : Comparison} {tokens : List Token}
  {predicate : Predicate α}

/-- What compiles into an operator on values compares with the value of its one token. -/
theorem Built.eq_compare {op : CompareOp} (compares : comparison.compareOp? = some op)
    (built : Built value tokens comparison predicate)
    : ∃ token operand, tokens = [token]
        ∧ value.kind.convert value.nullable token = .ok operand
        ∧ predicate = value.compare op operand := by
  cases built with
  | isIn converted | notIn converted | between converted | like => cases compares
  | text searches => cases comparison <;> cases searches <;> cases compares
  | compare compares' converted =>
      cases compares.symm.trans compares'
      exact ⟨_, _, rfl, converted, rfl⟩

/-- A range is made of the values of its two tokens. -/
theorem Built.eq_between (built : Built value tokens .between predicate)
    : ∃ first second low high, tokens = [first, second]
        ∧ value.kind.convert value.nullable first = .ok low
        ∧ value.kind.convert value.nullable second = .ok high
        ∧ predicate = value.between low high := by
  cases built with
  | text searches => cases searches
  | compare compares converted => cases compares
  | between converted =>
      have pairs := Kind.convertAll_eq_ok.mp converted
      obtain ⟨first, rest, firstConverted, later, rfl⟩ := List.forall₂_cons_right_iff.mp pairs
      obtain ⟨second, others, secondConverted, none_left, rfl⟩ := List.forall₂_cons_right_iff.mp later
      obtain rfl := List.forall₂_nil_right_iff.mp none_left
      exact ⟨first, second, _, _, rfl, firstConverted, secondConverted, rfl⟩

end ReadValue

namespace Clause

variable {schema : Schema} {owner : schema.Ty} {path : String} {kind : Kind} {nullable : Bool}
  {read : schema.Item owner → Value}

/-- No item that reads null is kept by a clause that asks for an order. -/
theorem not_test_of_isOrdering {comparison : Comparison} {tokens : List Token}
    {predicate : Predicate (schema.Item owner)}
    (leads : resolve schema owner path = .ok (.value kind nullable read))
    (ordering : comparison.isOrdering = true)
    (compiled : Clause.compile schema owner ⟨path, comparison, tokens, false⟩ = .ok predicate)
    {item : schema.Item owner} (empty : read item = .null)
    : predicate.test item = false := by
  obtain ⟨op, compares, asks⟩ := Comparison.compareOp?_of_isOrdering ordering
  obtain ⟨-, built⟩ := (compile_of_value leads).mp compiled
  obtain ⟨token, operand, -, -, rfl⟩ := built.eq_compare compares
  have unordered : (read item).compare? operand = none := by rw [empty, Value.null_compare?]
  exact CompareOp.not_holds_of_compare? unordered asks

/-- A range on an ordered value compiles with both its bounds, and keeps what they keep; it keeps null
besides if both its tokens are null. -/
theorem range_of_value {tokens : List Token} {range : Predicate (schema.Item owner)}
    (leads : resolve schema owner path = .ok (.value kind nullable read))
    (ordered : kind.family = .ordered)
    (compiled : Clause.compile schema owner ⟨path, .between, tokens, false⟩ = .ok range)
    : ∃ first second lower upper, tokens = [first, second]
        ∧ Clause.compile schema owner ⟨path, .greaterThanOrEqual, [first], false⟩ = .ok lower
        ∧ Clause.compile schema owner ⟨path, .lessThanOrEqual, [second], false⟩ = .ok upper
        ∧ ∀ item, range.test item = true
            ↔ (lower.test item = true ∧ upper.test item = true)
              ∨ (first = none ∧ second = none ∧ read item = .null) := by
  obtain ⟨-, built⟩ := (compile_of_value leads).mp compiled
  obtain ⟨first, second, low, high, rfl, firstConverted, secondConverted, rfl⟩ := built.eq_between
  have bound {comparison : Comparison} {op : CompareOp} {token : Token} {operand : Value}
      (compares : comparison.compareOp? = some op)
      (converted : kind.convert nullable token = .ok operand)
      (applies : comparison.appliesTo .ordered = true)
      : Clause.compile schema owner ⟨path, comparison, [token], false⟩
        = .ok (ReadValue.compare ⟨path, kind, nullable, read⟩ op operand) :=
    (compile_of_value leads).mpr ⟨ordered.symm ▸ applies, .compare compares converted⟩
  refine ⟨first, second, _, _, rfl, bound rfl firstConverted rfl, bound rfl secondConverted rfl, ?_⟩
  intro item
  rw [← Kind.null_iff_of_convert firstConverted, ← Kind.null_iff_of_convert secondConverted]
  exact ReadValue.between_test _ low high item

/-- On an ordered value no order keeps an item that reads null. A range keeps exactly what both its
bounds keep, also where they are one value, but for one case: a range from null to null keeps the items
that read null. -/
theorem compile_range (schema : Schema) (owner : schema.Ty) (path : String)
    (accessor : Accessor schema owner) (kind : Kind)
    (resolved : Accessor.resolve schema owner path = .ok accessor)
    (reads : accessor.kind? = some kind) (ordered : kind.family = .ordered)
    : (∀ comparison tokens predicate item,
          comparison.isOrdering = true
          → Clause.compile schema owner ⟨path, comparison, tokens, false⟩ = .ok predicate
          → accessor.read? item = some .null
          → predicate.test item = false)
      ∧ ∀ tokens range,
          Clause.compile schema owner ⟨path, .between, tokens, false⟩ = .ok range
          → ∃ low high lower upper, tokens = [low, high]
              ∧ Clause.compile schema owner ⟨path, .greaterThanOrEqual, [low], false⟩ = .ok lower
              ∧ Clause.compile schema owner ⟨path, .lessThanOrEqual, [high], false⟩ = .ok upper
              ∧ ∀ item,
                  (range.test item = true
                    ↔ (lower.test item = true ∧ upper.test item = true)
                      ∨ (low = none ∧ high = none ∧ accessor.read? item = some .null))
                  ∧ (accessor.read? item = some .null
                    → (range.test item = true ↔ low = none ∧ high = none)) := by
  obtain ⟨target, leads, rfl⟩ := Accessor.resolve_eq_ok.mp resolved
  cases target with
  | elements => cases reads
  | value valueKind nullable read =>
      obtain rfl : valueKind = kind := Option.some.inj reads
      have readsNull (item : schema.Item owner)
          : Accessor.read? ⟨path, .value valueKind nullable read⟩ item = some .null
            ↔ read item = .null :=
        Option.some_inj
      simp only [readsNull]
      constructor
      · intro comparison tokens predicate item ordering compiled empty
        exact not_test_of_isOrdering leads ordering compiled empty
      · intro tokens range compiled
        obtain ⟨low, high, lower, upper, spelled, lowerMade, upperMade, keeps⟩ :=
          range_of_value leads ordered compiled
        refine ⟨low, high, lower, upper, spelled, lowerMade, upperMade, fun item => ⟨keeps item, ?_⟩⟩
        intro empty
        have below : lower.test item = false := not_test_of_isOrdering leads rfl lowerMade empty
        simp [keeps item, below, empty]

/-- The lines of five to five pieces are those of at least and at most five. -/
theorem compile_range_fivePieces
    : ∃ accessor,
        Accessor.resolve Shop.schema .line "quantity" = .ok accessor
        ∧ accessor.kind? = some .integer
        ∧ Kind.integer.family = .ordered
        ∧ ∃ range lower upper,
            Clause.compile Shop.schema .line
                ⟨"quantity", .between, [some "5", some "+5"], false⟩ = .ok range
            ∧ Clause.compile Shop.schema .line
                ⟨"quantity", .greaterThanOrEqual, [some "5"], false⟩ = .ok lower
            ∧ Clause.compile Shop.schema .line
                ⟨"quantity", .lessThanOrEqual, [some "+5"], false⟩ = .ok upper
            ∧ ∀ item,
                range.test item = true ↔ lower.test item = true ∧ upper.test item = true := by
  have resolved := Accessor.resolve_eq_ok.mpr ⟨_, Shop.resolve_quantity, rfl⟩
  have made : Kind.integer.convertAll true [some "5", some "+5"]
      = .ok [.number (.signed 5), .number (.signed 5)] := by rfl
  have compiled := (compile_of_value Shop.resolve_quantity).mpr ⟨rfl, .between made⟩
  obtain ⟨low, high, lower, upper, ⟨⟩, lowerMade, upperMade, keeps⟩ :=
    (compile_range Shop.schema .line "quantity" _ .integer resolved rfl rfl).2 _ _ compiled
  refine ⟨_, resolved, rfl, rfl, _, lower, upper, compiled, lowerMade, upperMade, fun item => ?_⟩
  simpa using (keeps item).1

/-- A range from null to null keeps a line whose pieces are not counted, though neither of its bounds
does. -/
theorem compile_range_nullPieces
    : ∃ accessor range lower upper,
        Accessor.resolve Shop.schema .line "quantity" = .ok accessor
        ∧ accessor.kind? = some .integer
        ∧ accessor.read? (⟨"hook", none⟩ : Shop.Line) = some .null
        ∧ Clause.compile Shop.schema .line
            ⟨"quantity", .between, [none, none], false⟩ = .ok range
        ∧ Clause.compile Shop.schema .line
            ⟨"quantity", .greaterThanOrEqual, [none], false⟩ = .ok lower
        ∧ Clause.compile Shop.schema .line
            ⟨"quantity", .lessThanOrEqual, [none], false⟩ = .ok upper
        ∧ range.test (⟨"hook", none⟩ : Shop.Line) = true
        ∧ lower.test (⟨"hook", none⟩ : Shop.Line) = false
        ∧ upper.test (⟨"hook", none⟩ : Shop.Line) = false := by
  have resolved := Accessor.resolve_eq_ok.mpr ⟨_, Shop.resolve_quantity, rfl⟩
  have nulls : Kind.integer.convertAll true [none, none] = .ok [.null, .null] := by rfl
  have null : Kind.integer.convert true none = .ok .null := by rfl
  have atLeast : Comparison.greaterThanOrEqual.compareOp? = some .gte := rfl
  have atMost : Comparison.lessThanOrEqual.compareOp? = some .lte := rfl
  have range := (compile_of_value Shop.resolve_quantity).mpr ⟨rfl, .between nulls⟩
  have lower := (compile_of_value Shop.resolve_quantity).mpr ⟨rfl, .compare atLeast null⟩
  have upper := (compile_of_value Shop.resolve_quantity).mpr ⟨rfl, .compare atMost null⟩
  exact ⟨_, _, _, _, resolved, rfl, rfl, range, lower, upper, rfl, rfl, rfl⟩

end Clause

end TypedQuery
