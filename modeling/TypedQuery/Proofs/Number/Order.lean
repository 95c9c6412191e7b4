import TypedQuery.Proofs.Number.Rounding
import TypedQuery.Proofs.Value.Comparison
import TypedQuery.Proofs.Value.Standing

/-! How numbers of several representations are sorted. Two integers are compared exactly, any other two
numbers in floating point. So integers that are rounded to one number are tied with it, but stand in
their own order to each other. In all other cases the order is a total preorder.
-/

namespace TypedQuery

-----------------------------------------------------------------------------------------
-- Words
-----------------------------------------------------------------------------------------

theorem compare_toInt (left right : Int64) : compare left right = compare left.toInt right.toInt := by
  show compareOfLessAndEq _ _ = compareOfLessAndEq _ _
  simp only [compareOfLessAndEq, Int64.lt_iff_toInt_lt, Int64.toInt_inj]

theorem compare_toNat (left right : UInt64)
    : compare left right = compare (left.toNat : Int) right.toNat := by
  show compareOfLessAndEq _ _ = compareOfLessAndEq _ _
  simp only [compareOfLessAndEq, UInt64.lt_iff_toNat_lt, Int.ofNat_lt, Int.natCast_inj,
    UInt64.toNat_inj]

theorem toInt_neg_iff {word : Int64} : word.toInt < 0 ↔ word < 0 := by
  rw [Int64.lt_iff_toInt_lt]
  rfl

/-- A signed word that is not negative is the same number without its sign. -/
theorem toNat_toUInt64 {word : Int64} (nonnegative : ¬ word < 0)
    : (word.toUInt64.toNat : Int) = word.toInt := by
  have atLeast : 0 ≤ word.toInt := Int.not_lt.mp (toInt_neg_iff.not.mpr nonnegative)
  rw [Int64.toNat_toUInt64_of_le (Int64.le_iff_toInt_le.mpr atLeast), Int64.toNatClampNeg]
  exact Int.toNat_of_nonneg atLeast

/-- The integers of words with a sign. -/
theorem exists_toInt_iff {value : Int}
    : (∃ word : Int64, word.toInt = value) ↔ -2 ^ 63 ≤ value ∧ value < 2 ^ 63 := by
  constructor
  · rintro ⟨word, rfl⟩
    exact ⟨word.le_toInt, word.toInt_lt⟩
  · rintro ⟨least, greatest⟩
    exact ⟨Int64.ofInt value, Int64.toInt_ofInt_of_le least greatest⟩

/-- The integers of words without a sign. -/
theorem exists_toNat_iff {value : Int}
    : (∃ word : UInt64, (word.toNat : Int) = value) ↔ 0 ≤ value ∧ value < 2 ^ 64 := by
  constructor
  · rintro ⟨word, rfl⟩
    have greatest := word.toNat_lt
    exact ⟨Int.natCast_nonneg _, by omega⟩
  · rintro ⟨least, greatest⟩
    have fits : value.toNat < 2 ^ 64 := by omega
    exact ⟨UInt64.ofNat value.toNat, by rw [UInt64.toNat_ofNat_of_lt' fits, Int.toNat_of_nonneg least]⟩

namespace Number

variable {left right number : Number} {value other : Int}

-----------------------------------------------------------------------------------------
-- Two ways to compare
-----------------------------------------------------------------------------------------

/-- The integer that a number in the representation of an integer is. -/
def integer? : Number → Option Int
  | .signed value => some value.toInt
  | .unsigned value => some value.toNat
  | .float _ => none

/-- The place of a number in the order of floating point; NaN has none. -/
def place? (number : Number) : Option Int :=
  number.toBinary64.place?

theorem toBinary64_of_integer (integer : number.integer? = some value)
    : number.toBinary64 = .ofInt value := by
  cases number <;> cases integer <;> rfl

theorem isNaN_of_integer (integer : number.integer? = some value) : number.isNaN = false := by
  cases number <;> cases integer <;> rfl

theorem place?_of_integer (integer : number.integer? = some value)
    : number.place? = some (Binary64.ofInt value).key := by
  rw [place?, toBinary64_of_integer integer, Binary64.place?, Binary64.isNaN_ofInt,
    if_neg Bool.false_ne_true]

theorem isNaN_toBinary64 (number : Number) : number.toBinary64.isNaN = number.isNaN := by
  cases number with
  | float value => rfl
  | signed value | unsigned value => exact Binary64.isNaN_ofInt _

/-- Integers are compared as integers, whatever words they are in. Only words that are not negative are
taken for words without a sign. -/
theorem compare?_of_integers (first : left.integer? = some value)
    (second : right.integer? = some other)
    : left.compare? right = some (compare value other) := by
  cases left <;> cases right <;> cases first <;> cases second <;>
    simp only [compare?, Option.some.injEq]
  case signed.signed => exact compare_toInt _ _
  case unsigned.unsigned => exact compare_toNat _ _
  case signed.unsigned word count =>
    split
    · next negative =>
      have below := toInt_neg_iff.mpr negative
      exact (Int.compare_eq_lt.mpr (by omega)).symm
    · next nonnegative => rw [compare_toNat, toNat_toUInt64 nonnegative]
  case unsigned.signed count word =>
    split
    · next negative =>
      have below := toInt_neg_iff.mpr negative
      exact (Int.compare_eq_gt.mpr (by omega)).symm
    · next nonnegative => rw [compare_toNat, toNat_toUInt64 nonnegative]

/-- Integers are sorted as integers. -/
theorem sortCompare_of_integers (first : left.integer? = some value)
    (second : right.integer? = some other)
    : left.sortCompare right = compare value other := by
  rw [sortCompare, isNaN_of_integer first, isNaN_of_integer second]
  simp only [compare?_of_integers first second, Option.getD_some]

/-- A number in floating point is compared with all numbers in floating point. -/
theorem compare?_of_float (float : left.integer? = none ∨ right.integer? = none)
    : left.compare? right = left.toBinary64.compare? right.toBinary64 := by
  rcases float with float | float
  · cases left <;> cases float
    cases right <;> rfl
  · cases right <;> cases float
    cases left <;> rfl

/-- A number in floating point is sorted among all numbers by their places. -/
theorem sortCompare_of_float (float : left.integer? = none ∨ right.integer? = none)
    : left.sortCompare right = compare left.place? right.place? := by
  simp only [sortCompare, compare?_of_float float, place?, Binary64.place?, Binary64.compare?,
    isNaN_toBinary64]
  cases left.isNaN <;> cases right.isNaN <;> rfl

/-- Two numbers are sorted by their places, unless they are integers. -/
theorem integers_or_float (left right : Number)
    : (∃ value other, left.integer? = some value ∧ right.integer? = some other)
      ∨ left.integer? = none ∨ right.integer? = none := by
  cases left.integer? <;> cases right.integer? <;> simp

/-- A number that is not sorted behind another has no place behind it. Integers that differ may be
rounded to one place. -/
theorem place?_isLE (sorted : (left.sortCompare right).isLE)
    : (compare left.place? right.place?).isLE := by
  obtain ⟨value, other, first, second⟩ | float := integers_or_float left right
  · rw [sortCompare_of_integers first second, Int.isLE_compare] at sorted
    rw [place?_of_integer first, place?_of_integer second]
    exact Int.isLE_compare.mpr (Binary64.key_ofInt_mono sorted)
  · rwa [← sortCompare_of_float float]

-----------------------------------------------------------------------------------------
-- The laws of sorting
-----------------------------------------------------------------------------------------

theorem sortCompare_self (number : Number) : number.sortCompare number = .eq := by
  obtain ⟨value, other, first, second⟩ | float := integers_or_float number number
  · cases first.symm.trans second
    rw [sortCompare_of_integers first second, Int.compare_eq_eq]
  · rw [sortCompare_of_float float]
    exact Std.ReflCmp.compare_self

theorem sortCompare_swap (left right : Number)
    : right.sortCompare left = (left.sortCompare right).swap := by
  obtain ⟨value, other, first, second⟩ | float := integers_or_float left right
  · rw [sortCompare_of_integers first second, sortCompare_of_integers second first, Int.compare_swap]
  · rw [sortCompare_of_float float, sortCompare_of_float float.symm]
    exact Std.OrientedCmp.eq_swap

/-- NaN is sorted before every other number. -/
theorem sortCompare_of_isNaN (isNaN : left.isNaN = true) (number : right.isNaN = false)
    : left.sortCompare right = .lt := by
  rw [sortCompare, isNaN, number]

-----------------------------------------------------------------------------------------
-- Integers
-----------------------------------------------------------------------------------------

/-- The integers that numbers can be are those of words with a sign and of words without one. -/
theorem exists_integer_iff
    : (∃ number : Number, number.integer? = some value) ↔ -2 ^ 63 ≤ value ∧ value < 2 ^ 64 := by
  constructor
  · rintro ⟨number, integer⟩
    cases number with
    | float word => cases integer
    | signed word =>
        obtain ⟨least, greatest⟩ := exists_toInt_iff.mp ⟨word, Option.some.inj integer⟩
        exact ⟨least, by omega⟩
    | unsigned word =>
        obtain ⟨least, greatest⟩ := exists_toNat_iff.mp ⟨word, Option.some.inj integer⟩
        exact ⟨by omega, greatest⟩
  · rintro ⟨least, greatest⟩
    by_cases small : value < 2 ^ 63
    · obtain ⟨word, same⟩ := exists_toInt_iff.mpr ⟨least, small⟩
      exact ⟨.signed word, congrArg some same⟩
    · obtain ⟨word, same⟩ := exists_toNat_iff.mpr ⟨by omega, greatest⟩
      exact ⟨.unsigned word, congrArg some same⟩

/-- Integers of both representations are compared and sorted as the integers that they are, over the
whole range of words with a sign and of words without one. So they are in one total order, in which only
two words for the same integer are tied. -/
theorem compare?_integers (first second third : Number) (one two three : Int)
    (firstInteger : first.integer? = some one) (secondInteger : second.integer? = some two)
    (thirdInteger : third.integer? = some three)
    : first.compare? second = some (compare one two)
      ∧ first.sortCompare second = compare one two
      ∧ (first.sortCompare second = .eq ↔ one = two)
      ∧ second.sortCompare first = (first.sortCompare second).swap
      ∧ (first.sortCompare second ≠ .gt → second.sortCompare third ≠ .gt →
          first.sortCompare third ≠ .gt)
      ∧ ∀ value, (∃ number : Number, number.integer? = some value)
          ↔ -2 ^ 63 ≤ value ∧ value < 2 ^ 64 := by
  have order := sortCompare_of_integers firstInteger secondInteger
  refine ⟨compare?_of_integers firstInteger secondInteger, order, ?_, sortCompare_swap first second, ?_,
    fun value => exists_integer_iff⟩
  · rw [order, Int.compare_eq_eq]
  · rw [order, sortCompare_of_integers secondInteger thirdInteger,
      sortCompare_of_integers firstInteger thirdInteger]
    simp only [ne_eq, Int.compare_eq_gt, Int.not_lt]
    exact Int.le_trans

/-- The least word with a sign is below the greatest one, and that one is below the word without a sign
whose bits are those of the least one. -/
theorem compare?_integers_wordBounds
    : (signed Int64.minValue).integer? = some (-9223372036854775808)
      ∧ (signed Int64.maxValue).integer? = some 9223372036854775807
      ∧ (unsigned 9223372036854775808).integer? = some 9223372036854775808
      ∧ (signed Int64.minValue).compare? (signed Int64.maxValue) = some .lt
      ∧ (signed Int64.maxValue).compare? (unsigned 9223372036854775808) = some .lt
      ∧ (signed Int64.minValue).sortCompare (unsigned 9223372036854775808) ≠ .gt := by
  have least : (signed Int64.minValue).integer? = some (-9223372036854775808) := by decide
  have greatest : (signed Int64.maxValue).integer? = some 9223372036854775807 := by decide
  have beyond : (unsigned 9223372036854775808).integer? = some 9223372036854775808 := by decide
  obtain ⟨low, lowSorted, -, -, together, -⟩ :=
    compare?_integers _ _ _ _ _ _ least greatest beyond
  obtain ⟨high, highSorted, -⟩ := compare?_integers _ _ _ _ _ _ greatest beyond least
  refine ⟨least, greatest, beyond, low, high, together ?_ ?_⟩
  · rw [lowSorted]
    decide
  · rw [highSorted]
    decide

-----------------------------------------------------------------------------------------
-- Ties
-----------------------------------------------------------------------------------------

/-- The first and the third number are integers, the first is the larger one, and both of them are
rounded to the second. -/
def TiedByRounding (first second third : Number) : Prop :=
  ∃ high low middle, first.integer? = some high ∧ second = .float middle ∧ third.integer? = some low
    ∧ low < high ∧ (Binary64.ofInt high).compare? middle = some .eq
    ∧ (Binary64.ofInt low).compare? middle = some .eq

/-- An integer is tied with a number in floating point where it is rounded to it. -/
theorem sortCompare_eq_of_rounded {middle : Binary64} (integer : number.integer? = some value)
    (rounded : (Binary64.ofInt value).compare? middle = some .eq)
    : number.sortCompare (.float middle) = .eq := by
  obtain ⟨-, placed, keys⟩ := Binary64.key_eq_of_compare? rounded
  rw [sortCompare_of_float (.inr rfl), place?_of_integer integer, place?, toBinary64, Binary64.place?,
    placed, if_neg Bool.false_ne_true, keys]
  exact Std.ReflCmp.compare_self

/-- A number in floating point that has the place of an integer is what the integer is rounded to. -/
theorem rounded_of_place?_eq {middle : Binary64} (integer : number.integer? = some value)
    (places : number.place? = place? (.float middle))
    : (Binary64.ofInt value).compare? middle = some .eq := by
  rw [place?_of_integer integer, place?, toBinary64, Binary64.place?] at places
  rw [Binary64.compare?, Binary64.isNaN_ofInt]
  cases isNaN : middle.isNaN with
  | true => simp [isNaN] at places
  | false =>
      rw [isNaN, if_neg Bool.false_ne_true, Option.some.injEq] at places
      simp [places]

/-- Sorting is not transitive where integers are tied by rounding, and nowhere else. The places of
the numbers are always in order, so an exception needs two numbers that are not compared by them. -/
theorem tiedByRounding_iff (first second third : Number)
    : (first.sortCompare second ≠ .gt ∧ second.sortCompare third ≠ .gt
          ∧ first.sortCompare third = .gt)
      ↔ TiedByRounding first second third := by
  simp only [ne_eq, Ordering.ne_gt_iff_isLE]
  constructor
  · rintro ⟨before, after, behind⟩
    have places := Std.TransCmp.isLE_trans (place?_isLE before) (place?_isLE after)
    obtain ⟨high, low, firstInteger, thirdInteger⟩ | float := integers_or_float first third
    · rw [sortCompare_of_integers firstInteger thirdInteger, Int.compare_eq_gt] at behind
      have back : (compare third.place? first.place?).isLE :=
        place?_isLE (by
          rw [sortCompare_of_integers thirdInteger firstInteger]
          exact Int.isLE_compare.mpr behind.le)
      cases second with
      | float middle =>
          -- The places go round in a circle, so they are one place.
          have above : first.place? = place? (.float middle) :=
            Std.LawfulEqCmp.eq_of_compare (Std.OrientedCmp.isLE_antisymm (place?_isLE before)
              (Std.TransCmp.isLE_trans (place?_isLE after) back))
          have below : third.place? = place? (.float middle) :=
            Std.LawfulEqCmp.eq_of_compare (Std.OrientedCmp.isLE_antisymm
              (Std.TransCmp.isLE_trans back (place?_isLE before)) (place?_isLE after))
          exact ⟨high, low, middle, firstInteger, rfl, thirdInteger, behind,
            rounded_of_place?_eq firstInteger above, rounded_of_place?_eq thirdInteger below⟩
      | signed middle | unsigned middle =>
          rw [sortCompare_of_integers firstInteger rfl, Int.isLE_compare] at before
          rw [sortCompare_of_integers rfl thirdInteger, Int.isLE_compare] at after
          omega
    · rw [← sortCompare_of_float float, behind] at places
      cases places
  · rintro ⟨high, low, middle, firstInteger, rfl, thirdInteger, larger, above, below⟩
    have tied := sortCompare_eq_of_rounded thirdInteger below
    rw [sortCompare_eq_of_rounded firstInteger above, sortCompare_swap third, tied,
      sortCompare_of_integers firstInteger thirdInteger]
    exact ⟨rfl, rfl, Int.compare_eq_gt.mpr larger⟩

/-- Integers within the precision of the format are not tied by rounding. -/
theorem TiedByRounding.exceeds {first second third : Number}
    (tied : TiedByRounding first second third)
    : ∃ value, (first.integer? = some value ∨ third.integer? = some value)
        ∧ 2 ^ 53 < value.natAbs := by
  obtain ⟨high, low, middle, firstInteger, -, thirdInteger, larger, above, below⟩ := tied
  obtain ⟨-, -, highKey⟩ := Binary64.key_eq_of_compare? above
  obtain ⟨-, -, lowKey⟩ := Binary64.key_eq_of_compare? below
  by_cases lowSmall : low.natAbs ≤ 2 ^ 53
  · by_cases highSmall : high.natAbs ≤ 2 ^ 53
    · have apart := Binary64.key_ofInt_strict larger lowSmall highSmall
      omega
    · exact ⟨high, .inl firstInteger, Nat.not_le.mp highSmall⟩
  · exact ⟨low, .inr thirdInteger, Nat.not_le.mp lowSmall⟩

/-- The laws of sorting numbers of all representations. Every number is tied with itself, two numbers
are in one order from both sides, and NaN comes before all else. The order is transitive but for
integers that are tied by rounding, one of which then has more digits than the format holds. -/
theorem sortCompare_laws (first second third : Number)
    : first.sortCompare first = .eq
      ∧ second.sortCompare first = (first.sortCompare second).swap
      ∧ (first.isNaN = true → second.isNaN = false → first.sortCompare second = .lt)
      ∧ ((first.sortCompare second ≠ .gt ∧ second.sortCompare third ≠ .gt
            ∧ first.sortCompare third = .gt)
          ↔ TiedByRounding first second third)
      ∧ (TiedByRounding first second third →
          ∃ value, (first.integer? = some value ∨ third.integer? = some value)
            ∧ 2 ^ 53 < value.natAbs) :=
  ⟨sortCompare_self first, sortCompare_swap first second, sortCompare_of_isNaN,
    tiedByRounding_iff first second third, TiedByRounding.exceeds⟩

/-- NaN comes before negative infinity. -/
theorem sortCompare_laws_belowInfinity
    : (float ⟨0x7FF8000000000000⟩).isNaN = true ∧ (float ⟨0xFFF0000000000000⟩).isNaN = false
      ∧ (float ⟨0x7FF8000000000000⟩).sortCompare (float ⟨0xFFF0000000000000⟩) = .lt :=
  have undefined : (float ⟨0x7FF8000000000000⟩).isNaN = true := by decide
  have defined : (float ⟨0xFFF0000000000000⟩).isNaN = false := by decide
  ⟨undefined, defined,
    (sortCompare_laws (float ⟨0x7FF8000000000000⟩) (float ⟨0xFFF0000000000000⟩)
      (signed 0)).2.2.1 undefined defined⟩

/-- The first integer that floating point does not hold is tied with the power of two below it in
floating point, and that one with the same power of two as an integer. -/
theorem sortCompare_laws_firstRounded
    : (signed 9007199254740993).sortCompare (float ⟨0x4340000000000000⟩) = .eq
      ∧ (float ⟨0x4340000000000000⟩).sortCompare (signed 9007199254740992) = .eq
      ∧ (signed 9007199254740993).sortCompare (signed 9007199254740992) = .gt := by
  decide

end Number

end TypedQuery
