import TypedQuery.Proofs.Number.Order

/-! Which laws of a partial order the comparison of numbers keeps. It is transitive where it says
smaller, it says the same from both sides, and it says nothing about NaN. But numbers that it takes for
equal may be in different representations, and then they are not the same.
-/

namespace TypedQuery.Number

variable {left right first second third : Number} {value other : Int}

-----------------------------------------------------------------------------------------
-- Both sides of a comparison
-----------------------------------------------------------------------------------------

/-- All numbers but NaN have an order to each other. -/
theorem compare?_eq_none_iff
    : left.compare? right = none ↔ left.isNaN = true ∨ right.isNaN = true := by
  constructor
  · intro apart
    obtain ⟨value, other, one, two⟩ | float := integers_or_float left right
    · rw [compare?_of_integers one two] at apart
      cases apart
    · rw [compare?_of_float float, Binary64.compare?, isNaN_toBinary64, isNaN_toBinary64] at apart
      rw [← Bool.or_eq_true]
      by_contra numbers
      rw [if_neg numbers] at apart
      cases apart
  · exact compare?_of_isNaN

/-- A comparison from the other side has the opposite result. -/
theorem compare?_swap (left right : Number)
    : right.compare? left = (left.compare? right).map Ordering.swap := by
  obtain ⟨value, other, one, two⟩ | float := integers_or_float left right
  · rw [compare?_of_integers one two, compare?_of_integers two one, Option.map_some,
      Int.compare_swap]
  · rw [compare?_of_float float, compare?_of_float float.symm, Binary64.compare?, Binary64.compare?,
      Bool.or_comm]
    split
    · rfl
    · rw [Option.map_some, Int.compare_swap]

theorem less_iff : left.less right = true ↔ left.compare? right = some .lt := by
  rw [less, beq_iff_eq]

theorem less_iff_greater : left.less right = true ↔ right.compare? left = some .gt := by
  rw [less_iff, compare?_swap left right]
  cases left.compare? right with
  | none => simp
  | some order => cases order <;> simp

-----------------------------------------------------------------------------------------
-- Smaller numbers
-----------------------------------------------------------------------------------------

/-- Of two integers the smaller one is less. -/
theorem less_of_integers (one : left.integer? = some value) (two : right.integer? = some other)
    : left.less right = true ↔ value < other := by
  rw [less_iff, compare?_of_integers one two, Option.some.injEq, Int.compare_eq_lt]

/-- Of two numbers that are not both integers, the one in the smaller place is less. -/
theorem less_of_float (float : left.integer? = none ∨ right.integer? = none)
    : left.less right = true
      ↔ ∃ place further, left.place? = some place ∧ right.place? = some further
          ∧ place < further := by
  rw [less_iff, compare?_of_float float, Binary64.compare?, place?, place?, Binary64.place?,
    Binary64.place?]
  cases left.toBinary64.isNaN <;> cases right.toBinary64.isNaN <;> simp [Int.compare_eq_lt]

/-- A larger number is not in a smaller place. It is in a larger one unless both are integers, which may
be rounded to one place. -/
theorem exists_places_of_less (smaller : left.less right = true)
    : ∃ place further, left.place? = some place ∧ right.place? = some further
        ∧ place ≤ further
        ∧ (left.integer? = none ∨ right.integer? = none → place < further) := by
  obtain ⟨value, other, one, two⟩ | float := integers_or_float left right
  · have order := (less_of_integers one two).mp smaller
    refine ⟨_, _, place?_of_integer one, place?_of_integer two, Binary64.key_ofInt_mono order.le, ?_⟩
    rintro (float | float)
    · cases one.symm.trans float
    · cases two.symm.trans float
  · obtain ⟨place, further, before, behind, order⟩ := (less_of_float float).mp smaller
    exact ⟨place, further, before, behind, order.le, fun _ => order⟩

/-- Smaller is transitive. One of the two steps leads to a larger place if there is a number in floating
point among the three, and rounding never turns the order of two integers round. -/
theorem less_trans (lower : first.less second = true) (upper : second.less third = true)
    : first.less third = true := by
  obtain ⟨place, middle, before, between, step, forward⟩ := exists_places_of_less lower
  obtain ⟨_, further, same, behind, next, onward⟩ := exists_places_of_less upper
  cases between.symm.trans same
  obtain ⟨value, other, one, three⟩ | float := integers_or_float first third
  · rw [less_of_integers one three]
    cases two : second.integer? with
    | some inner =>
        have below := (less_of_integers one two).mp lower
        have above := (less_of_integers two three).mp upper
        exact below.trans above
    | none =>
        have apart := forward (.inr two)
        cases before.symm.trans (place?_of_integer one)
        cases behind.symm.trans (place?_of_integer three)
        by_contra reversed
        have back := Binary64.key_ofInt_mono (Int.not_lt.mp reversed)
        omega
  · rw [less_of_float float]
    refine ⟨place, further, before, behind, ?_⟩
    rcases float with float | float
    · have apart := forward (.inl float)
      omega
    · have apart := onward (.inr float)
      omega

-----------------------------------------------------------------------------------------
-- Equal numbers
-----------------------------------------------------------------------------------------

/-- The numbers are in different representations and compare as equal. They are one integer, as a word
with a sign and as one without, or an integer and what it is rounded to in floating point.
-/
inductive Meets : Number → Number → Prop
  | words {word : Int64} {count : UInt64} (same : word.toInt = count.toNat)
    : Meets (.signed word) (.unsigned count)
  | rounded {number : Number} {value : Int} {middle : Binary64}
    (integer : number.integer? = some value)
    (rounds : (Binary64.ofInt value).compare? middle = some .eq)
    : Meets number (.float middle)

/-- The numbers compare as equal across representations, in either order. -/
def EqualAcross (left right : Number) : Prop :=
  Meets left right ∨ Meets right left

theorem compare?_eq_comm : left.compare? right = some .eq ↔ right.compare? left = some .eq := by
  rw [compare?_swap left right]
  cases left.compare? right with
  | none => simp
  | some order => cases order <;> simp

/-- An integer compares with a number in floating point as what it is rounded to. -/
theorem compare?_float_of_integer {middle : Binary64} (integer : left.integer? = some value)
    : left.compare? (.float middle) = (Binary64.ofInt value).compare? middle := by
  rw [compare?_of_float (.inr rfl), toBinary64_of_integer integer]
  rfl

theorem Meets.compare?_eq (meets : Meets left right) : left.compare? right = some .eq := by
  cases meets with
  | words same => rw [compare?_of_integers rfl rfl, same, Int.compare_eq_eq.mpr rfl]
  | rounded integer rounds => rw [compare?_float_of_integer integer, rounds]

theorem Meets.not_same (meets : Meets left right)
    : left.same right = false ∧ right.same left = false := by
  cases meets with
  | words same => exact ⟨rfl, rfl⟩
  | rounded integer rounds =>
      cases left with
      | float number => cases integer
      | signed word | unsigned word => exact ⟨rfl, rfl⟩

theorem EqualAcross.compare?_eq (equal : EqualAcross left right)
    : left.compare? right = some .eq := by
  rcases equal with meets | meets
  · exact meets.compare?_eq
  · exact compare?_eq_comm.mp meets.compare?_eq

theorem EqualAcross.not_same (equal : EqualAcross left right) : left.same right = false := by
  rcases equal with meets | meets
  · exact meets.not_same.1
  · exact meets.not_same.2

/-- Numbers that are the same compare as equal. -/
theorem compare?_eq_of_same (same : left.same right = true) : left.compare? right = some .eq := by
  cases left <;> cases right <;>
    simp only [Number.same, beq_iff_eq, Bool.false_eq_true] at same
  case signed.signed => rw [same, compare?_of_integers rfl rfl, Int.compare_eq_eq.mpr rfl]
  case unsigned.unsigned => rw [same, compare?_of_integers rfl rfl, Int.compare_eq_eq.mpr rfl]
  case float.float => exact same

/-- Two words for one integer are the same word, or one has a sign and the other has none. -/
theorem same_or_equalAcross (one : left.integer? = some value) (two : right.integer? = some value)
    : left.same right = true ∨ EqualAcross left right := by
  have equal : left.integer? = right.integer? := one.trans two.symm
  cases left with
  | float number => cases one
  | signed word =>
      cases right with
      | float number => cases two
      | signed other =>
          have words : word = other := Int64.toInt_inj.mp (Option.some.inj equal)
          exact .inl (beq_iff_eq.mpr words)
      | unsigned count => exact .inr (.inl (.words (Option.some.inj equal)))
  | unsigned count =>
      cases right with
      | float number => cases two
      | signed word => exact .inr (.inr (.words (Option.some.inj equal).symm))
      | unsigned other =>
          have words : count = other :=
            UInt64.toNat_inj.mp (Int.ofNat.inj (Option.some.inj equal))
          exact .inl (beq_iff_eq.mpr words)

/-- Numbers compare as equal where they are the same, and where they are equal across representations. -/
theorem compare?_eq_iff
    : left.compare? right = some .eq ↔ left.same right = true ∨ EqualAcross left right := by
  constructor
  · intro equal
    cases one : left.integer? with
    | some value =>
        cases two : right.integer? with
        | some other =>
            rw [compare?_of_integers one two, Option.some.injEq, Int.compare_eq_eq] at equal
            exact same_or_equalAcross one (equal ▸ two)
        | none =>
            cases right <;> cases two
            rw [compare?_float_of_integer one] at equal
            exact .inr (.inl (.rounded one equal))
    | none =>
        cases left <;> cases one
        cases two : right.integer? with
        | some other =>
            rw [compare?_eq_comm, compare?_float_of_integer two] at equal
            exact .inr (.inr (.rounded two equal))
        | none =>
            cases right <;> cases two
            exact .inl (beq_iff_eq.mpr equal)
  · rintro (same | across)
    · exact compare?_eq_of_same same
    · exact across.compare?_eq

-----------------------------------------------------------------------------------------
-- The laws
-----------------------------------------------------------------------------------------

/-- What is the same compares as equal, so NaN is not the same as anything. -/
theorem not_same_of_isNaN (isNaN : left.isNaN = true ∨ right.isNaN = true)
    : left.same right = false := by
  rw [← Bool.not_eq_true]
  intro same
  have equal := compare?_eq_of_same same
  rw [compare?_eq_none_iff.mpr isNaN] at equal
  cases equal

/-- The laws of a partial order, on numbers of all representations. Numbers that are the same compare as
equal, and the ones that compare as equal without being the same are those equal across
representations. Smaller and greater say the same from the two sides, and smaller is transitive. NaN has
no order to any number and is the same as none, and all other numbers have an order to each other.
-/
theorem compare?_partialOrder (first second third : Number)
    : (first.same second = true → first.compare? second = some .eq)
      ∧ (first.compare? second = some .eq ∧ first.same second = false ↔ EqualAcross first second)
      ∧ (first.less second = true ↔ second.compare? first = some .gt)
      ∧ (first.less second = true → second.less third = true → first.less third = true)
      ∧ (first.compare? second = none ↔ first.isNaN = true ∨ second.isNaN = true)
      ∧ (first.isNaN = true ∨ second.isNaN = true → first.same second = false) := by
  refine ⟨compare?_eq_of_same, ?_, less_iff_greater, less_trans, compare?_eq_none_iff,
    not_same_of_isNaN⟩
  constructor
  · intro equal
    rcases compare?_eq_iff.mp equal.1 with same | across
    · rw [equal.2] at same
      cases same
    · exact across
  · intro across
    exact ⟨across.compare?_eq, across.not_same⟩

/-- The first integer that floating point does not hold is smaller than a number two above the one that it
is rounded to, and that one is smaller than the next integer that is not held. NaN is not the same as
itself. -/
theorem compare?_partialOrder_unheldIntegers
    : (signed 9007199254740993).less (float ⟨0x4340000000000001⟩) = true
      ∧ (float ⟨0x4340000000000001⟩).less (unsigned 9007199254740995) = true
      ∧ (signed 9007199254740993).less (unsigned 9007199254740995) = true
      ∧ (float ⟨0x7FF8000000000000⟩).isNaN = true
      ∧ (float ⟨0x7FF8000000000000⟩).same (float ⟨0x7FF8000000000000⟩) = false := by
  have lower : (signed 9007199254740993).less (float ⟨0x4340000000000001⟩) = true := by
    decide
  have upper : (float ⟨0x4340000000000001⟩).less (unsigned 9007199254740995) = true := by
    decide
  have undefined : (float ⟨0x7FF8000000000000⟩).isNaN = true := by decide
  obtain ⟨-, -, -, together, -, -⟩ := compare?_partialOrder (signed 9007199254740993)
    (float ⟨0x4340000000000001⟩) (unsigned 9007199254740995)
  obtain ⟨-, -, -, -, -, apart⟩ := compare?_partialOrder (float ⟨0x7FF8000000000000⟩)
    (float ⟨0x7FF8000000000000⟩) (signed 0)
  exact ⟨lower, upper, together lower upper, undefined, apart (.inl undefined)⟩

/-- Five as an integer compares as equal with five in floating point, and is not the same. -/
theorem compare?_partialOrder_five
    : (signed 5).compare? (float ⟨0x4014000000000000⟩) = some .eq
      ∧ (signed 5).same (float ⟨0x4014000000000000⟩) = false := by
  decide

end TypedQuery.Number
