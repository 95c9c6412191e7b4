import TypedQuery.Proofs.Number.Order

/-! How clauses compare values and how items are sorted by them, side by side. Wherever two values have an
order to each other in clauses it is the one in which they are sorted. They have none if they differ in
form or if one of them is null or NaN, and then no operator holds but those of equality.
-/

namespace TypedQuery

namespace Number

variable {left right : Number}

/-- Numbers that are numbers at all are compared in the order in which they are sorted. -/
theorem compare?_eq_some_sortCompare (first : left.isNaN = false) (second : right.isNaN = false)
    : left.compare? right = some (left.sortCompare right) := by
  obtain ⟨value, other, integer, another⟩ | float := integers_or_float left right
  · rw [compare?_of_integers integer another, sortCompare_of_integers integer another]
  · have compared : left.compare? right
        = some (compare left.toBinary64.key right.toBinary64.key) := by
      rw [compare?_of_float float, Binary64.compare?, isNaN_toBinary64, isNaN_toBinary64, first, second]
      rfl
    rw [sortCompare, first, second]
    simp only [compared, Option.getD_some]

end Number

-----------------------------------------------------------------------------------------
-- Values that have an order
-----------------------------------------------------------------------------------------

/-- What a value is, whatever it amounts to. Numbers are of one form in all their representations. -/
inductive Form where
  | text
  | number
  | instant
  | date
  | variant
  | flag
  | uuid
  | null
deriving DecidableEq, Repr

namespace Value

variable {field operand : Value} {ordering : Ordering}

def form : Value → Form
  | .text _ => .text
  | .number _ => .number
  | .instant _ => .instant
  | .date _ => .date
  | .variant _ => .variant
  | .flag _ => .flag
  | .uuid _ => .uuid
  | .null => .null

/-- The value has the form of a number and is none. -/
def isNaN : Value → Bool
  | .number amount => amount.isNaN
  | _ => false

/-- The values are of one form, and neither of them is null or NaN. -/
structure Comparable (field operand : Value) : Prop where
  form : field.form = operand.form
  filled : field ≠ .null
  fieldNumber : field.isNaN = false
  operandNumber : operand.isNaN = false

/-- Values that can be compared are compared in the order in which they are sorted. -/
theorem Comparable.exists_ordering (comparable : field.Comparable operand)
    : ∃ ordering, field.compare? operand = some ordering
        ∧ field.sortCompare? operand = some ordering := by
  obtain ⟨form, filled, fieldNumber, operandNumber⟩ := comparable
  cases field with
  | null => exact absurd rfl filled
  | number left =>
      cases operand <;> cases form
      case number right =>
        exact ⟨_, Number.compare?_eq_some_sortCompare fieldNumber operandNumber, rfl⟩
  | text | instant | date | variant | flag | uuid =>
      cases operand <;> cases form
      exact ⟨_, rfl, rfl⟩

/-- Only values that can be compared have an order. -/
theorem comparable_of_compare? (compared : field.compare? operand = some ordering)
    : field.Comparable operand := by
  cases field with
  | null => cases compared
  | number left =>
      cases operand <;> try cases compared
      case number right =>
        have numbers : left.isNaN = false ∧ right.isNaN = false := by
          by_contra undefined
          have isNaN : left.isNaN = true ∨ right.isNaN = true := by
            rwa [← Bool.not_eq_true, ← Bool.not_eq_true, ← not_or, not_not] at undefined
          cases (Number.compare?_of_isNaN isNaN).symm.trans compared
        exact ⟨rfl, nofun, numbers.1, numbers.2⟩
  | text | instant | date | variant | flag | uuid =>
      cases operand <;> cases compared
      exact ⟨rfl, nofun, rfl, rfl⟩

theorem compare?_eq_none (apart : ¬ field.Comparable operand) : field.compare? operand = none :=
  Option.eq_none_iff_forall_ne_some.mpr fun _ compared => apart (comparable_of_compare? compared)

/-- Values that differ in form are not sorted by each other. -/
theorem sortCompare?_eq_none (filled : field ≠ .null) (present : operand ≠ .null)
    (differ : field.form ≠ operand.form)
    : field.sortCompare? operand = none := by
  cases field <;> cases operand <;>
    first | rfl | exact absurd rfl differ | exact absurd rfl filled | exact absurd rfl present

/-- Where null is among two values they are tied exactly if they are equal, both of them being null. -/
theorem sortCompare?_of_null (null : field = .null ∨ operand = .null)
    : ∃ ordering, field.sortCompare? operand = some ordering
        ∧ field.equals operand = (ordering == .eq) := by
  rcases null with rfl | rfl
  · cases operand <;> exact ⟨_, rfl, rfl⟩
  · cases field <;> exact ⟨_, rfl, rfl⟩

-----------------------------------------------------------------------------------------
-- Operators and the order of sorting
-----------------------------------------------------------------------------------------

/-- Every operator goes by the order in which the values are sorted. -/
def ComparedAsSorted (field operand : Value) : Prop :=
  ∃ ordering, field.sortCompare? operand = some ordering
    ∧ ∀ op : CompareOp, op.holds field operand = op.allows ordering

/-- Values that are compared as they are sorted have an order in clauses: of any two orders in which they
could be sorted, the one or the other allows some operator that asks for an order. -/
theorem ComparedAsSorted.comparable (alike : field.ComparedAsSorted operand)
    : field.Comparable operand := by
  obtain ⟨ordering, -, same⟩ := alike
  by_contra apart
  have unordered := compare?_eq_none apart
  have below := (same .lte).symm.trans (CompareOp.not_holds_of_compare? unordered (by decide))
  have above := (same .gte).symm.trans (CompareOp.not_holds_of_compare? unordered (by decide))
  cases ordering with
  | lt | eq => cases below
  | gt => cases above

theorem Comparable.comparedAsSorted (comparable : field.Comparable operand)
    : field.ComparedAsSorted operand := by
  obtain ⟨ordering, compared, sorted⟩ := comparable.exists_ordering
  exact ⟨ordering, sorted, fun op => op.holds_of_compare? compared⟩

/-- Numbers are sorted by each other, NaN included, and NaN differs from all of them in every clause. -/
theorem holds_of_isNaN (form : field.form = operand.form)
    (isNaN : field.isNaN = true ∨ operand.isNaN = true)
    : (∃ ordering, field.sortCompare? operand = some ordering)
      ∧ ∀ op : CompareOp, op.holds field operand = decide (op = .ne) := by
  have apart : field.compare? operand = none := by
    apply compare?_eq_none
    rintro ⟨-, -, fieldNumber, operandNumber⟩
    simp [fieldNumber, operandNumber] at isNaN
  have filled : ¬ (field = .null ∧ operand = .null) := by
    rintro ⟨rfl, rfl⟩
    simp [Value.isNaN] at isNaN
  refine ⟨?_, fun op => op.holds_eq_ne apart filled⟩
  cases field <;> cases operand <;> cases form <;> exact ⟨_, rfl⟩

/-- When the operators of clauses go by the order of sorting: for values of one form, neither null nor NaN,
and for no others. Values that differ in form are not sorted by each other and differ in every clause. Null
is sorted, and is equal to null alone, but no operator that asks for an order holds of it. -/
theorem comparedAsSorted_iff (field operand : Value)
    : ((∃ ordering, field.sortCompare? operand = some ordering
            ∧ ∀ op : CompareOp, op.holds field operand = op.allows ordering)
          ↔ field.form = operand.form ∧ field ≠ .null
            ∧ field.isNaN = false ∧ operand.isNaN = false)
      ∧ (field ≠ .null → operand ≠ .null → field.form ≠ operand.form →
          field.sortCompare? operand = none
          ∧ ∀ op : CompareOp, op.holds field operand = decide (op = .ne))
      ∧ (field = .null ∨ operand = .null →
          ∃ ordering, field.sortCompare? operand = some ordering
            ∧ CompareOp.eq.holds field operand = CompareOp.eq.allows ordering
            ∧ CompareOp.ne.holds field operand = CompareOp.ne.allows ordering
            ∧ ∀ op : CompareOp, op ≠ .eq ∧ op ≠ .ne → op.holds field operand = false)
      ∧ (field.form = operand.form → field.isNaN = true ∨ operand.isNaN = true →
          (∃ ordering, field.sortCompare? operand = some ordering)
          ∧ ∀ op : CompareOp, op.holds field operand = decide (op = .ne)) := by
  refine ⟨⟨fun alike => ?_, ?_⟩, fun filled present differ => ?_, fun null => ?_, holds_of_isNaN⟩
  · obtain ⟨form, filled, fieldNumber, operandNumber⟩ := ComparedAsSorted.comparable alike
    exact ⟨form, filled, fieldNumber, operandNumber⟩
  · rintro ⟨form, filled, fieldNumber, operandNumber⟩
    exact Comparable.comparedAsSorted ⟨form, filled, fieldNumber, operandNumber⟩
  · have apart : field.compare? operand = none :=
      compare?_eq_none fun comparable => differ comparable.form
    exact ⟨sortCompare?_eq_none filled present differ,
      fun op => op.holds_eq_ne apart fun nulls => filled nulls.1⟩
  · obtain ⟨ordering, sorted, equals⟩ := sortCompare?_of_null null
    have apart : field.compare? operand = none := by
      apply compare?_eq_none
      rintro ⟨form, filled, -, -⟩
      rcases null with rfl | rfl
      · exact filled rfl
      · cases field <;> first | exact filled rfl | cases form
    refine ⟨ordering, sorted, equals, congrArg (!·) equals, fun op => ?_⟩
    exact CompareOp.not_holds_of_compare? apart

/-- A negative word is below the greatest word without a sign, in clauses as in sorting. Texts are no flags.
Null is tied with null and not at least null. NaN is tied with itself and different from itself. -/
theorem comparedAsSorted_iff_exceptions
    : (∃ ordering,
          (number (.signed (-1))).sortCompare? (.number (.unsigned 0xFFFFFFFFFFFFFFFF))
            = some ordering
          ∧ ∀ op : CompareOp,
              op.holds (.number (.signed (-1))) (.number (.unsigned 0xFFFFFFFFFFFFFFFF))
                = op.allows ordering)
      ∧ (text "true").sortCompare? (.flag true) = none
      ∧ CompareOp.gte.holds .null .null = false
      ∧ CompareOp.eq.holds (.number (.float Binary64.nan)) (.number (.float Binary64.nan)) = false := by
  have undefined : (number (.float Binary64.nan)).isNaN = true := by decide
  obtain ⟨alike, -⟩ :=
    comparedAsSorted_iff (.number (.signed (-1))) (.number (.unsigned 0xFFFFFFFFFFFFFFFF))
  obtain ⟨-, differ, -⟩ := comparedAsSorted_iff (.text "true") (.flag true)
  obtain ⟨-, -, nulls, -⟩ := comparedAsSorted_iff .null .null
  obtain ⟨-, -, -, isNaN⟩ :=
    comparedAsSorted_iff (.number (.float Binary64.nan)) (.number (.float Binary64.nan))
  obtain ⟨-, -, -, -, unordered⟩ := nulls (.inl rfl)
  exact ⟨alike.mpr ⟨rfl, nofun, rfl, rfl⟩, (differ nofun nofun nofun).1, unordered .gte (by decide),
    (isNaN rfl (.inl undefined)).2 .eq⟩

end Value

end TypedQuery
