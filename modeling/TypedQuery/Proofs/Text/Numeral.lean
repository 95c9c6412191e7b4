import Mathlib.Data.Nat.Digits.Lemmas
import TypedQuery.Proofs.Text.Trimming
import TypedQuery.Text.Decimal

/-! Decimal numerals: what number some digits are by their places, and which integers texts spell with a
sign or without one. What reads integers takes these texts and no others, however long they are.
-/

namespace TypedQuery.Text

variable {text digits : List Char} {value : Int} {count : Nat}

-----------------------------------------------------------------------------------------
-- Digits and their places
-----------------------------------------------------------------------------------------

theorem not_blank_of_isDigit {character : Char} (digit : character.isDigit = true)
    : isBlank character = false := by
  obtain ⟨atLeast, atMost⟩ := Char.isDigit_iff_toNat.mp digit
  have low : 48 ≤ character.toNat := atLeast
  have high : character.toNat ≤ 57 := atMost
  exact not_blank_of_visible (by omega) (by omega)

/-- The value of a decimal digit. -/
def digitValue (digit : Char) : Nat :=
  digit.toNat - '0'.toNat

theorem digitValue_lt {digit : Char} (numeric : digit.isDigit = true) : digitValue digit < 10 := by
  obtain ⟨-, atMost⟩ := Char.isDigit_iff_toNat.mp numeric
  have bound : digit.toNat ≤ 57 := atMost
  have zero : '0'.toNat = 48 := rfl
  rw [digitValue, zero]
  omega

/-- What digits denote is the sum of their values by their places, the last digit counting once and every
other one ten times the digit after it. By induction from the last digit. -/
theorem ofDigits_eq_places (digits : List Char)
    : ofDigits digits = Nat.ofDigits 10 (digits.reverse.map digitValue) := by
  induction digits using List.reverseRecOn with
  | nil => rfl
  | append_singleton digits digit ih =>
      have last : ofDigits (digits ++ [digit]) = 10 * ofDigits digits + digitValue digit := by
        rw [ofDigits, List.foldl_append]
        rfl
      rw [last, ih, List.reverse_append, List.reverse_singleton, List.singleton_append, List.map_cons,
        Nat.ofDigits_cons, Nat.add_comm]

/-- The last digits are what is left over when the first ones are counted at their place. -/
theorem ofDigits_append (first last : List Char)
    : ofDigits (first ++ last) = ofDigits first * 10 ^ last.length + ofDigits last := by
  simp only [ofDigits_eq_places, List.reverse_append, List.map_append, Nat.ofDigits_append,
    List.length_map, List.length_reverse]
  rw [Nat.mul_comm, Nat.add_comm]

theorem ofDigits_lt (numeric : ∀ character ∈ digits, character.isDigit = true)
    : ofDigits digits < 10 ^ digits.length := by
  have small : ∀ value ∈ digits.reverse.map digitValue, value < 10 := by
    intro value member
    obtain ⟨digit, digitMember, rfl⟩ := List.mem_map.mp member
    exact digitValue_lt (numeric digit (List.mem_reverse.mp digitMember))
  have bound := Nat.ofDigits_lt_base_pow_length (by decide) small
  rwa [List.length_map, List.length_reverse, ← ofDigits_eq_places] at bound

/-- The number of the first digits is that of all digits without its last places. -/
theorem ofDigits_take (numeric : ∀ character ∈ digits, character.isDigit = true) (taken : Nat)
    : ofDigits (digits.take taken) = ofDigits digits / 10 ^ (digits.length - taken) := by
  have left : ofDigits (digits.drop taken) < 10 ^ (digits.length - taken) := by
    rw [← List.length_drop]
    exact ofDigits_lt fun character member => numeric character (List.mem_of_mem_drop member)
  have whole := ofDigits_append (digits.take taken) (digits.drop taken)
  rw [List.take_append_drop, List.length_drop] at whole
  rw [whole, Nat.mul_comm, Nat.mul_add_div (Nat.pow_pos (by decide)), Nat.div_eq_of_lt left,
    Nat.add_zero]

-----------------------------------------------------------------------------------------
-- Numerals
-----------------------------------------------------------------------------------------

/-- One or more decimal digits, and the number that they are by their places. -/
structure Numeral (text : List Char) (count : Nat) : Prop where
  filled : text ≠ []
  numeric : ∀ character ∈ text, character.isDigit = true
  places : Nat.ofDigits 10 (text.reverse.map digitValue) = count

theorem Numeral.ofDigits_eq (numeral : Numeral text count) : ofDigits text = count :=
  (ofDigits_eq_places text).trans numeral.places

/-- A numeral has no white space in it. -/
theorem Numeral.not_blank (numeral : Numeral text count)
    : ∀ character ∈ text, isBlank character = false :=
  fun character member => not_blank_of_isDigit (numeral.numeric character member)

theorem Numeral.trimmed (numeral : Numeral text count) : Trimmed text :=
  .of_solid numeral.filled numeral.not_blank

theorem natural?_eq_some_iff : natural? text = some count ↔ Numeral text count := by
  unfold natural?
  split
  · next digits =>
    rw [Bool.and_eq_true, Bool.not_eq_true', List.isEmpty_eq_false_iff, List.all_eq_true] at digits
    rw [Option.some.injEq, ofDigits_eq_places]
    exact ⟨fun places => ⟨digits.1, digits.2, places⟩, Numeral.places⟩
  · next other =>
    refine ⟨nofun, fun ⟨filled, numeric, _⟩ => absurd ?_ other⟩
    rw [Bool.and_eq_true, Bool.not_eq_true', List.isEmpty_eq_false_iff, List.all_eq_true]
    exact ⟨filled, numeric⟩

theorem toList_padded (width count : Nat)
    : (padded width count).toList
      = List.replicate (width - (Nat.toDigits 10 count).length) '0' ++ Nat.toDigits 10 count := by
  have length : count.repr.length = (Nat.toDigits 10 count).length := by
    rw [← Nat.toList_repr, String.length_toList]
  simp [padded, length]

/-- A number that needs no more digits than the width gets exactly that many. -/
theorem length_padded {width : Nat} (fits : (Nat.toDigits 10 count).length ≤ width)
    : (padded width count).toList.length = width := by
  simp [toList_padded, fits]

/-- The decimal form of a number is a numeral of it, whatever its width. -/
theorem numeral_padded (width count : Nat) : Numeral (padded width count).toList count where
  filled := by simp [toList_padded, Nat.toDigits_ne_nil]
  numeric := by
    intro character member
    rw [toList_padded, List.mem_append, List.mem_replicate] at member
    rcases member with ⟨-, rfl⟩ | member
    · rfl
    · exact Nat.isDigit_of_mem_toDigits (by decide) (by decide) member
  places := by
    have folded (digits : List Char) : ofDigits digits = Nat.ofDigitChars 10 digits 0 := by
      rw [Nat.ofDigitChars_eq_foldl]
      rfl
    rw [← ofDigits_eq_places, folded, toList_padded, Nat.ofDigitChars_append,
      Nat.ofDigitChars_replicate_zero, Nat.mul_zero, Nat.ofDigitChars_ten_toDigits]

theorem numeral_toDigits (count : Nat) : Numeral (Nat.toDigits 10 count) count := by
  have numeral := numeral_padded 0 count
  rwa [toList_padded, Nat.zero_sub, List.replicate_zero, List.nil_append] at numeral

theorem trim_toDigits (count : Nat) : trim (Nat.toDigits 10 count) = Nat.toDigits 10 count :=
  trim_of_solid (numeral_toDigits count).not_blank

-----------------------------------------------------------------------------------------
-- Signs
-----------------------------------------------------------------------------------------

/-- The text is a numeral with a sign before it or without one. A minus sign may stand only where there
are negative numbers. -/
inductive Spells (negatives : Bool) : List Char → Int → Prop
  | bare {digits : List Char} {count : Nat} (numeral : Numeral digits count)
    : Spells negatives digits count
  | plus {digits : List Char} {count : Nat} (numeral : Numeral digits count)
    : Spells negatives ('+' :: digits) count
  | minus {digits : List Char} {count : Nat} (allowed : negatives = true) (numeral : Numeral digits count)
    : Spells negatives ('-' :: digits) (-count)

/-- A numeral does not start with a sign. -/
theorem Numeral.isDigit_first {sign : Char} (numeral : Numeral (sign :: text) count)
    : sign.isDigit = true :=
  numeral.numeric sign List.mem_cons_self

theorem unsigned?_eq_some_iff
    : unsigned? text = some count
      ↔ Numeral text count ∨ ∃ digits, text = '+' :: digits ∧ Numeral digits count := by
  unfold unsigned?
  split
  · next digits =>
    rw [natural?_eq_some_iff]
    constructor
    · exact fun numeral => .inr ⟨digits, rfl, numeral⟩
    · rintro (numeral | ⟨_, ⟨⟩, numeral⟩)
      · cases numeral.isDigit_first
      · exact numeral
  · next other =>
    rw [natural?_eq_some_iff, or_iff_left]
    rintro ⟨digits, same, -⟩
    exact other digits same

theorem unsigned?_toDigits (count : Nat) : unsigned? (Nat.toDigits 10 count) = some count :=
  unsigned?_eq_some_iff.mpr (.inl (numeral_toDigits count))

/-- Where there are no negative numbers only a plus sign may stand before the digits. -/
theorem map_unsigned?_eq_some_iff
    : (unsigned? text).map Int.ofNat = some value ↔ Spells false text value := by
  simp only [Option.map_eq_some_iff, unsigned?_eq_some_iff]
  constructor
  · rintro ⟨count, numeral | ⟨digits, rfl, numeral⟩, rfl⟩
    · exact .bare numeral
    · exact .plus numeral
  · rintro (numeral | numeral | _)
    · exact ⟨_, .inl numeral, rfl⟩
    · exact ⟨_, .inr ⟨_, rfl, numeral⟩, rfl⟩
    · contradiction

theorem signed?_eq_some_iff : signed? text = some value ↔ Spells true text value := by
  unfold signed?
  split
  · next digits =>
    simp only [Option.map_eq_some_iff, Option.bind_eq_bind, Option.bind_eq_some_iff, Option.pure_def,
      natural?_eq_some_iff]
    constructor
    · rintro ⟨_, ⟨count, numeral, ⟨⟩⟩, rfl⟩
      exact .minus rfl numeral
    · rintro (numeral | _ | ⟨_, numeral⟩)
      · cases numeral.isDigit_first
      · exact ⟨_, ⟨_, numeral, rfl⟩, rfl⟩
  · next other =>
    rw [map_unsigned?_eq_some_iff]
    constructor
    · rintro (numeral | numeral | _)
      · exact .bare numeral
      · exact .plus numeral
      · contradiction
    · rintro (numeral | numeral | ⟨_, numeral⟩)
      · exact .bare numeral
      · exact .plus numeral
      · exact absurd rfl (other _)

/-- A numeral has no white space in it, and neither has its sign. -/
theorem Spells.not_blank {negatives : Bool} (spelled : Spells negatives text value)
    : ∀ character ∈ text, isBlank character = false := by
  cases spelled with
  | bare numeral => exact numeral.not_blank
  | plus numeral => exact List.forall_mem_cons.mpr ⟨by decide, numeral.not_blank⟩
  | minus _ numeral => exact List.forall_mem_cons.mpr ⟨by decide, numeral.not_blank⟩

/-- Between white space there is a numeral exactly if trimming leaves it. -/
theorem exists_framed_spells_iff {negatives : Bool} {raw : List Char}
    : (∃ text, Framed raw text ∧ Spells negatives text value) ↔ Spells negatives (trim raw) value := by
  constructor
  · rintro ⟨text, framed, spelled⟩
    rwa [trim_of_framed framed, trim_of_solid spelled.not_blank]
  · exact fun spelled => ⟨trim raw, framed_trim raw, spelled⟩

/-- The decimal form of an integer spells it. -/
theorem spells_toString {negatives : Bool} (allowed : value < 0 → negatives = true)
    : Spells negatives (toString value).toList value := by
  have numeral (count : Nat) : Numeral (toString count).toList count := by
    rw [Nat.toString_eq_repr, Nat.toList_repr]
    exact numeral_toDigits count
  cases value with
  | ofNat count => exact .bare (numeral count)
  | negSucc count =>
      have written : (toString (Int.negSucc count)).toList = '-' :: (toString (count + 1)).toList :=
        String.toList_append
      rw [written]
      exact .minus (allowed (Int.negSucc_lt_zero count)) (numeral (count + 1))

end TypedQuery.Text
