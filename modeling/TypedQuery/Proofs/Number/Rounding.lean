import Mathlib.Order.MinMax
import Mathlib.Tactic.Ring
import TypedQuery.Number.Binary64

/-! Integers in floating point. An integer that has too many digits is rounded, and rounding never turns
the order of two integers round. It may leave them equal.
-/

namespace TypedQuery

-----------------------------------------------------------------------------------------
-- Rounding of quotients
-----------------------------------------------------------------------------------------

section

variable {numerator larger denominator : Nat}

/-- A fraction is rounded down or up by less than one. -/
theorem roundHalfEven_bounds (numerator denominator : Nat)
    : numerator / denominator ≤ roundHalfEven numerator denominator
      ∧ roundHalfEven numerator denominator ≤ numerator / denominator + 1 := by
  unfold roundHalfEven
  dsimp only
  split_ifs <;> omega

/-- Of two fractions with one denominator, the larger one is not rounded to the smaller integer. -/
theorem roundHalfEven_mono (le : numerator ≤ larger)
    : roundHalfEven numerator denominator ≤ roundHalfEven larger denominator := by
  have quotients : numerator / denominator ≤ larger / denominator := Nat.div_le_div_right le
  rcases Nat.lt_or_eq_of_le quotients with less | same
  · have below := (roundHalfEven_bounds numerator denominator).2
    have above := (roundHalfEven_bounds larger denominator).1
    omega
  · -- Between two integers the remainders decide, and they are in the order of the numerators.
    have remainders : numerator % denominator ≤ larger % denominator := by
      have first := Nat.div_add_mod numerator denominator
      have second := Nat.div_add_mod larger denominator
      rw [same] at first
      omega
    unfold roundHalfEven
    rw [same]
    dsimp only
    split_ifs <;> omega

end

-----------------------------------------------------------------------------------------
-- Positive integers
-----------------------------------------------------------------------------------------

namespace Binary64

/-- The exponent of the largest power of two in an integer is its number of binary digits but one. -/
theorem floorLog2_one {count : Nat} (positive : count ≠ 0) : floorLog2 count 1 = count.log2 := by
  have one : Nat.log2 1 = 0 := rfl
  have below : 2 ^ count.log2 ≤ count := Nat.log2_self_le positive
  simp [floorLog2, scaleDown, one, below]

/-- Integers with as many binary digits are rounded in one unit: short ones are filled up to the digits
of the format, and long ones are cut. -/
theorem scaleDown_one (count digits : Nat)
    : scaleDown count 1 ((digits : Int) - 52) = (count * 2 ^ (52 - digits), 2 ^ (digits - 52)) := by
  have cut : ((digits : Int) - 52).toNat = digits - 52 := by omega
  have filled : (-((digits : Int) - 52)).toNat = 52 - digits := by omega
  rw [scaleDown, cut, filled]
  split
  · have long : 52 - digits = 0 := by omega
    simp [long]
  · have short : digits - 52 = 0 := by omega
    simp [short]

/-- The significand of an integer in floating point. -/
def significandOf (count : Nat) : Nat :=
  (BinaryFormat.double.round count 1).1

/-- The pattern of an integer without its sign. -/
def magnitudeOf (count : Nat) : Nat :=
  if count = 0 then 0
  else min ((count.log2 + 1022) * 2 ^ 52 + significandOf count) infinityMagnitude

section

variable {count larger : Nat}

theorem round_one (positive : count ≠ 0)
    : BinaryFormat.double.round count 1
      = (roundHalfEven (count * 2 ^ (52 - count.log2)) (2 ^ (count.log2 - 52)),
          (count.log2 : Int) - 52) := by
  have wanted : (count.log2 : Int) - ((53 : Nat) - 1) = count.log2 - 52 := rfl
  have least : max ((count.log2 : Int) - 52) (-1074) = count.log2 - 52 := by omega
  simp only [BinaryFormat.round, BinaryFormat.double, floorLog2_one positive, wanted, least,
    scaleDown_one]

theorem significandOf_eq (positive : count ≠ 0)
    : significandOf count
      = roundHalfEven (count * 2 ^ (52 - count.log2)) (2 ^ (count.log2 - 52)) :=
  congrArg Prod.fst (round_one positive)

theorem ofInt_eq (value : Int)
    : ofInt value = ofMagnitude (decide (value < 0)) (magnitudeOf value.natAbs) := by
  unfold ofInt ofFraction magnitudeOf
  split
  · rfl
  · next positive =>
    have exponent : ((value.natAbs.log2 : Int) - 52 + 1074).toNat = value.natAbs.log2 + 1022 := by
      omega
    simp only [significandOf, round_one positive, exponent]
    rfl

/-- A significand has all the digits of the format, or is the next power of two. -/
theorem significandOf_bounds (positive : count ≠ 0)
    : 2 ^ 52 ≤ significandOf count ∧ significandOf count ≤ 2 ^ 53 := by
  rw [significandOf_eq positive]
  have balanced : 2 ^ count.log2 * 2 ^ (52 - count.log2) = 2 ^ 52 * 2 ^ (count.log2 - 52) := by
    rw [← Nat.pow_add, ← Nat.pow_add]
    congr 1
    omega
  have least : 2 ^ 52 * 2 ^ (count.log2 - 52) ≤ count * 2 ^ (52 - count.log2) :=
    balanced ▸ Nat.mul_le_mul_right _ (Nat.log2_self_le positive)
  have greatest : count * 2 ^ (52 - count.log2) < 2 ^ (count.log2 - 52) * 2 ^ 53 :=
    calc count * 2 ^ (52 - count.log2)
        < 2 ^ (count.log2 + 1) * 2 ^ (52 - count.log2) :=
          Nat.mul_lt_mul_of_pos_right Nat.lt_log2_self (Nat.two_pow_pos _)
      _ = 2 * (2 ^ count.log2 * 2 ^ (52 - count.log2)) := by ring
      _ = 2 ^ (count.log2 - 52) * 2 ^ 53 := by rw [balanced]; ring
  have below := (Nat.le_div_iff_mul_le (Nat.two_pow_pos _)).mpr least
  have above := Nat.div_lt_of_lt_mul greatest
  have rounded := roundHalfEven_bounds (count * 2 ^ (52 - count.log2)) (2 ^ (count.log2 - 52))
  exact ⟨Nat.le_trans below rounded.1, Nat.le_trans rounded.2 above⟩

/-- Integers of as many binary digits are in the order of their significands. -/
theorem significandOf_mono (positive : count ≠ 0) (le : count ≤ larger)
    (digits : count.log2 = larger.log2)
    : significandOf count ≤ significandOf larger := by
  rw [significandOf_eq positive, significandOf_eq (by omega), digits]
  exact roundHalfEven_mono (Nat.mul_le_mul_right _ le)

/-- The patterns of integers are in the order of the integers, where these are not negative: at a
power of two the exponent grows by as much as the significand can. -/
theorem magnitudeOf_mono (le : count ≤ larger)
    : magnitudeOf count ≤ magnitudeOf larger := by
  unfold magnitudeOf
  split_ifs with zero largerZero largerZero
  · exact Nat.le_refl 0
  · exact Nat.zero_le _
  · omega
  · have digits : count.log2 ≤ larger.log2 := by
      rw [Nat.le_log2 largerZero]
      exact Nat.le_trans (Nat.log2_self_le zero) le
    have patterns : (count.log2 + 1022) * 2 ^ 52 + significandOf count
        ≤ (larger.log2 + 1022) * 2 ^ 52 + significandOf larger := by
      rcases Nat.lt_or_eq_of_le digits with fewer | same
      · have small := (significandOf_bounds zero).2
        have large := (significandOf_bounds largerZero).1
        omega
      · have significands := significandOf_mono zero le same
        omega
    exact min_le_min_right infinityMagnitude patterns

theorem magnitudeOf_le (count : Nat) : magnitudeOf count ≤ infinityMagnitude := by
  unfold magnitudeOf
  split_ifs
  · exact Nat.zero_le _
  · exact min_le_right _ _

/-- Below the precision of the format nothing is rounded. -/
theorem significandOf_of_lt (positive : count ≠ 0) (small : count < 2 ^ 53)
    : significandOf count = count * 2 ^ (52 - count.log2) := by
  have digits : count.log2 < 53 := (Nat.log2_lt positive).mpr small
  have whole : count.log2 - 52 = 0 := by omega
  rw [significandOf_eq positive, whole]
  simp [roundHalfEven, Nat.mod_one]

theorem significandOf_lt (positive : count ≠ 0) (small : count < 2 ^ 53)
    : significandOf count < 2 ^ 53 := by
  have digits : count.log2 < 53 := (Nat.log2_lt positive).mpr small
  have all : count.log2 + 1 + (52 - count.log2) = 53 := by omega
  calc significandOf count
      = count * 2 ^ (52 - count.log2) := significandOf_of_lt positive small
    _ < 2 ^ (count.log2 + 1) * 2 ^ (52 - count.log2) :=
        Nat.mul_lt_mul_of_pos_right Nat.lt_log2_self (Nat.two_pow_pos _)
    _ = 2 ^ 53 := by rw [← Nat.pow_add, all]

theorem significandOf_strict (positive : count ≠ 0) (less : count < larger)
    (small : larger < 2 ^ 53) (digits : count.log2 = larger.log2)
    : significandOf count < significandOf larger := by
  rw [significandOf_of_lt positive (less.trans small), significandOf_of_lt (by omega) small, digits]
  exact Nat.mul_lt_mul_of_pos_right less (Nat.two_pow_pos _)

/-- Integers within the precision of the format have patterns of their own. -/
theorem magnitudeOf_strict (less : count < larger) (small : larger ≤ 2 ^ 53)
    : magnitudeOf count < magnitudeOf larger := by
  have largerPositive : larger ≠ 0 := by omega
  have largerDigits : larger.log2 < 54 := (Nat.log2_lt largerPositive).mpr (by omega)
  have largerBounds := significandOf_bounds largerPositive
  have finite : (larger.log2 + 1022) * 2 ^ 52 + significandOf larger ≤ infinityMagnitude := by
    rw [infinityMagnitude]
    omega
  rw [magnitudeOf, magnitudeOf, if_neg largerPositive, min_eq_left finite]
  split_ifs with zero
  · omega
  · have countBound := significandOf_lt zero (by omega)
    have order : count.log2 ≤ larger.log2 := by
      rw [Nat.le_log2 largerPositive]
      exact Nat.le_trans (Nat.log2_self_le zero) less.le
    refine Nat.lt_of_le_of_lt (min_le_left _ _) ?_
    rcases Nat.lt_or_eq_of_le order with fewer | same
    · omega
    · have countDigits : count.log2 < 53 := (Nat.log2_lt zero).mpr (by omega)
      have largerSmall : larger < 2 ^ 53 := (Nat.log2_lt largerPositive).mp (same ▸ countDigits)
      have significands := significandOf_strict zero less largerSmall same
      omega

end

-----------------------------------------------------------------------------------------
-- Integers with their sign
-----------------------------------------------------------------------------------------

section

variable {pattern : Nat}

theorem magnitude_ofMagnitude (negative : Bool) (finite : pattern ≤ infinityMagnitude)
    : (ofMagnitude negative pattern).magnitude = pattern := by
  simp only [infinityMagnitude] at finite
  cases negative <;> simp [ofMagnitude, magnitude, signWeight] <;> omega

theorem key_ofMagnitude (negative : Bool) (finite : pattern ≤ infinityMagnitude)
    : (ofMagnitude negative pattern).key = if negative then -(pattern : Int) else pattern := by
  have sign : (ofMagnitude negative pattern).isNegative = negative := by
    simp only [infinityMagnitude] at finite
    rw [isNegative, Bool.eq_iff_iff, Nat.ble_eq]
    cases negative <;> simp [ofMagnitude, signWeight] <;> omega
  rw [key, sign, magnitude_ofMagnitude negative finite]

end

/-- An integer has a place among the numbers in floating point. -/
theorem isNaN_ofInt (value : Int) : (ofInt value).isNaN = false := by
  have finite := magnitudeOf_le value.natAbs
  rw [ofInt_eq, isNaN, magnitude_ofMagnitude _ finite, Bool.eq_false_iff]
  simp [Nat.blt_eq]
  omega

theorem key_ofInt (value : Int)
    : (ofInt value).key
        = if value < 0 then -(magnitudeOf value.natAbs : Int) else magnitudeOf value.natAbs := by
  rw [ofInt_eq, key_ofMagnitude _ (magnitudeOf_le _)]
  simp

/-- Rounding keeps the order of the integers, or makes them equal. -/
theorem key_ofInt_mono {left right : Int} (le : left ≤ right)
    : (ofInt left).key ≤ (ofInt right).key := by
  rw [key_ofInt, key_ofInt]
  split_ifs with leftNegative rightNegative rightNegative
  · have reversed : magnitudeOf right.natAbs ≤ magnitudeOf left.natAbs := magnitudeOf_mono (by omega)
    omega
  · omega
  · omega
  · have forward : magnitudeOf left.natAbs ≤ magnitudeOf right.natAbs := magnitudeOf_mono (by omega)
    omega

/-- Integers within the precision of the format are told apart. -/
theorem key_ofInt_strict {left right : Int} (less : left < right) (leftSmall : left.natAbs ≤ 2 ^ 53)
    (rightSmall : right.natAbs ≤ 2 ^ 53)
    : (ofInt left).key < (ofInt right).key := by
  rw [key_ofInt, key_ofInt]
  split_ifs with leftNegative rightNegative rightNegative
  · have reversed : magnitudeOf right.natAbs < magnitudeOf left.natAbs :=
      magnitudeOf_strict (by omega) leftSmall
    omega
  · have apart : magnitudeOf 0 < magnitudeOf left.natAbs := magnitudeOf_strict (by omega) leftSmall
    omega
  · omega
  · have forward : magnitudeOf left.natAbs < magnitudeOf right.natAbs :=
      magnitudeOf_strict (by omega) rightSmall
    omega

end Binary64

end TypedQuery
