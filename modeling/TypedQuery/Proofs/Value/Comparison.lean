import TypedQuery.Filter
import TypedQuery.Operand

/-! How values compare. Null has no order to anything, and bounds that are the same value compare
alike with every field, so a range between them is the one value that they are.
-/

namespace TypedQuery

-----------------------------------------------------------------------------------------
-- Bounds that are the same
-----------------------------------------------------------------------------------------

/-- Floating-point numbers that are equal are numbers with one key, the two zeros among them. -/
theorem Binary64.key_eq_of_compare? {left right : Binary64}
    (equal : left.compare? right = some .eq)
    : left.isNaN = false ∧ right.isNaN = false ∧ left.key = right.key := by
  unfold Binary64.compare? at equal
  split at equal
  · cases equal
  · next numbers =>
    obtain ⟨leftNumber, rightNumber⟩ : left.isNaN = false ∧ right.isNaN = false := by
      simpa using numbers
    exact ⟨leftNumber, rightNumber, by simpa using equal⟩

/-- Floating-point numbers that are equal compare alike. -/
theorem Binary64.compare?_congr {left right : Binary64} (equal : left.compare? right = some .eq)
    (field : Binary64)
    : field.compare? left = field.compare? right := by
  obtain ⟨leftNumber, rightNumber, keys⟩ := key_eq_of_compare? equal
  simp only [Binary64.compare?, leftNumber, rightNumber, keys]

/-- Numbers that are the same compare alike. -/
theorem Number.compare?_congr {left right : Number} (same : left.same right = true)
    (field : Number)
    : field.compare? left = field.compare? right := by
  cases left <;> cases right <;> simp only [Number.same, beq_iff_eq, Bool.false_eq_true] at same
  case signed.signed => rw [same]
  case unsigned.unsigned => rw [same]
  case float.float left right =>
    cases field <;> exact Binary64.compare?_congr same _

namespace Value

/-- Values that are the same are equal, or are numbers that are the same. -/
theorem same_cases {left right : Value} (same : left.same right = true)
    : left = right
      ∨ ∃ first second, left = .number first ∧ right = .number second
          ∧ first.same second = true := by
  cases left <;> cases right
  case number.number first second => exact .inr ⟨first, second, rfl, rfl, same⟩
  case null.null => exact .inl rfl
  all_goals first
    | exact .inl (by rw [eq_of_beq same])
    | cases same

/-- Values that are the same compare alike. -/
theorem compare?_congr {left right : Value} (same : left.same right = true) (field : Value)
    : field.compare? left = field.compare? right := by
  rcases same_cases same with rfl | ⟨first, second, rfl, rfl, same⟩
  · rfl
  · cases field
    case number field => exact Number.compare?_congr same field
    all_goals rfl

@[simp] theorem compare?_null (field : Value) : field.compare? .null = none := by
  cases field <;> rfl

@[simp] theorem null_compare? (operand : Value) : null.compare? operand = none := by
  cases operand <;> rfl

/-- Null is the same as null only. -/
theorem null_same_iff {value : Value} : Value.null.same value = true ↔ value = .null := by
  constructor
  · intro same
    rcases same_cases same with equal | ⟨_, _, ⟨⟩, _⟩
    exact equal.symm
  · rintro rfl
    rfl

theorem equals_null_iff {field : Value} : field.equals .null = true ↔ field = .null := by
  cases field <;> simp [Value.equals]

/-- A field equals an operand other than null exactly if they compare as equal. -/
theorem equals_of_ne_null {operand : Value} (filled : operand ≠ .null) (field : Value)
    : field.equals operand = (field.compare? operand == some .eq) := by
  cases operand <;> cases field <;> first | rfl | exact absurd rfl filled

end Value

-----------------------------------------------------------------------------------------
-- Operators
-----------------------------------------------------------------------------------------

namespace CompareOp

variable {field operand : Value} {ordering : Ordering}

/-- Of values that have an order, the operators hold that allow this order. -/
theorem holds_of_compare? (op : CompareOp) (compared : field.compare? operand = some ordering)
    : op.holds field operand = op.allows ordering := by
  have filled : operand ≠ .null := by
    rintro rfl
    rw [Value.compare?_null] at compared
    cases compared
  have equals : field.equals operand = (ordering == .eq) := by
    rw [Value.equals_of_ne_null filled, compared]
    rfl
  cases op <;> simp only [holds, allows, equals, compared, bne]

/-- Of values that have no order, no operator holds that asks for one. -/
theorem not_holds_of_compare? (apart : field.compare? operand = none) {op : CompareOp}
    (ordering : op ≠ .eq ∧ op ≠ .ne)
    : op.holds field operand = false := by
  cases op with
  | eq => exact absurd rfl ordering.1
  | ne => exact absurd rfl ordering.2
  | gt | gte | lt | lte => simp only [holds, apart]

/-- Of values that have no order, and are not both null, only inequality holds. -/
theorem holds_eq_ne (op : CompareOp) (apart : field.compare? operand = none)
    (filled : ¬ (field = .null ∧ operand = .null))
    : op.holds field operand = decide (op = .ne) := by
  have differ : field.equals operand = false := by
    by_cases empty : operand = .null
    · rw [← Bool.not_eq_true, empty, Value.equals_null_iff]
      exact fun null => filled ⟨null, empty⟩
    · rw [Value.equals_of_ne_null empty, apart]
      rfl
  cases op <;> simp [holds, differ, apart]

end CompareOp

end TypedQuery
