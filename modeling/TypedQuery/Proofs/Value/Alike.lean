import TypedQuery.Proofs.Value.Comparison

/-! Values that are read alike. No comparison and no order tells such values apart: they are equal, or
they are the two zeros of floating point, which are one value in all that is asked of them.
-/

namespace TypedQuery

-----------------------------------------------------------------------------------------
-- Numbers
-----------------------------------------------------------------------------------------

/-- Floating-point numbers that are equal are compared alike with all others. -/
theorem Binary64.compare?_congr_left {left right : Binary64}
    (equal : left.compare? right = some .eq) (operand : Binary64)
    : left.compare? operand = right.compare? operand := by
  obtain ⟨leftNumber, rightNumber, keys⟩ := key_eq_of_compare? equal
  simp only [Binary64.compare?, leftNumber, rightNumber, keys]

namespace Number

variable {left right : Number}

/-- Numbers that are the same are compared alike with all others. -/
theorem compare?_congr_left (same : left.same right = true) (operand : Number)
    : left.compare? operand = right.compare? operand := by
  cases left <;> cases right <;> simp only [Number.same, beq_iff_eq, Bool.false_eq_true] at same
  case signed.signed => rw [same]
  case unsigned.unsigned => rw [same]
  case float.float left right =>
    cases operand <;> exact Binary64.compare?_congr_left same _

/-- A number that is the same as some other is a number at all if that one is. -/
theorem isNaN_congr (same : left.same right = true) : left.isNaN = right.isNaN := by
  cases left <;> cases right <;> simp only [Number.same, beq_iff_eq, Bool.false_eq_true] at same
  case signed.signed | unsigned.unsigned => rfl
  case float.float left right =>
    obtain ⟨leftNumber, rightNumber, -⟩ := Binary64.key_eq_of_compare? same
    exact leftNumber.trans rightNumber.symm

/-- Numbers that are the same are sorted alike, from either side. -/
theorem sortCompare_congr (same : left.same right = true) (other : Number)
    : left.sortCompare other = right.sortCompare other
      ∧ other.sortCompare left = other.sortCompare right := by
  constructor
  · rw [sortCompare, sortCompare, isNaN_congr same, compare?_congr_left same]
  · rw [sortCompare, sortCompare, isNaN_congr same, compare?_congr same]

end Number

-----------------------------------------------------------------------------------------
-- Values
-----------------------------------------------------------------------------------------

namespace Value

/-- The values are equal, or the same in kind and representation and value. NaN is alike to itself. -/
def Alike (left right : Value) : Prop :=
  left = right ∨ left.same right = true

variable {left right : Value}

/-- Values that are alike and not equal are numbers that are the same. -/
theorem Alike.cases (alike : left.Alike right)
    : left = right
      ∨ ∃ first second, left = .number first ∧ right = .number second
          ∧ first.same second = true :=
  alike.elim .inl same_cases

/-- Fields that are alike are texts only if they are the same text. -/
theorem Alike.text?_eq (alike : left.Alike right) : left.text? = right.text? := by
  rcases alike.cases with rfl | ⟨first, second, rfl, rfl, -⟩ <;> rfl

/-- Fields that are alike compare alike with all operands. -/
theorem Alike.compare?_eq (alike : left.Alike right) (operand : Value)
    : left.compare? operand = right.compare? operand := by
  rcases alike.cases with rfl | ⟨first, second, rfl, rfl, same⟩
  · rfl
  · cases operand
    case number operand => exact Number.compare?_congr_left same operand
    all_goals rfl

/-- Fields that are alike equal the same operands. -/
theorem Alike.equals_eq (alike : left.Alike right) (operand : Value)
    : left.equals operand = right.equals operand := by
  have compared := alike.compare?_eq operand
  rcases alike.cases with rfl | ⟨first, second, rfl, rfl, same⟩
  · rfl
  · by_cases null : operand = .null
    · rw [null]
      rfl
    · rw [equals_of_ne_null null, equals_of_ne_null null, compared]

/-- Fields that are alike satisfy the same comparisons. -/
theorem Alike.holds_eq (alike : left.Alike right) (op : CompareOp) (operand : Value)
    : op.holds left operand = op.holds right operand := by
  cases op <;> simp only [CompareOp.holds, alike.equals_eq, alike.compare?_eq]

/-- A value that is alike to another is sorted alike, from either side. -/
theorem Alike.sortCompare?_congr (alike : left.Alike right) (other : Value)
    : left.sortCompare? other = right.sortCompare? other
      ∧ other.sortCompare? left = other.sortCompare? right := by
  rcases alike.cases with rfl | ⟨first, second, rfl, rfl, same⟩
  · exact ⟨rfl, rfl⟩
  · cases other
    case number other =>
      obtain ⟨before, after⟩ := Number.sortCompare_congr same other
      exact ⟨congrArg some before, congrArg some after⟩
    all_goals exact ⟨rfl, rfl⟩

/-- Values that are alike, two by two, stand to each other alike when they are sorted. -/
theorem Alike.sortCompare?_eq {first second : Value} (alike : left.Alike right)
    (others : first.Alike second)
    : left.sortCompare? first = right.sortCompare? second :=
  (alike.sortCompare?_congr first).1.trans (others.sortCompare?_congr right).2

end Value

end TypedQuery
