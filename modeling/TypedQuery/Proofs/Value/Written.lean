import TypedQuery.Proofs.Calendar.Days
import TypedQuery.Proofs.Calendar.Spelling
import TypedQuery.Uuid

/-! The texts that dates and identifiers are written as. What reads the tokens of clauses reads each of
them back as what it was written for, so different dates, or different identifiers, never share a text.
-/

namespace TypedQuery

-----------------------------------------------------------------------------------------
-- Dates
-----------------------------------------------------------------------------------------

theorem daysInMonth_le (year : Int) (month : Nat) : daysInMonth year month ≤ 31 := by
  unfold daysInMonth
  split <;> try split
  all_goals decide

namespace Calendar

open Text Text.Reader

/-- The text of a year has a sign if there may be more than four digits. -/
theorem looseYear_written (year : Int)
    : LooseYear
        (if 0 ≤ year ∧ year ≤ 9999 then padded 4 year.toNat
          else (if year < 0 then "-" else "+") ++ padded 4 year.natAbs).toList
        year := by
  by_cases plain : 0 ≤ year ∧ year ≤ 9999
  · have value : (year.toNat : Int) = year := by omega
    have fits : (Nat.toDigits 10 year.toNat).length ≤ 4 :=
      (Nat.length_toDigits_le_iff (by decide) (by decide)).mpr (by omega)
    have spelled := LooseYear.plain (numeral_padded 4 year.toNat) (Nat.le_of_eq (length_padded fits))
    rwa [if_pos plain, ← value]
  · rw [if_neg plain, String.toList_append]
    by_cases negative : year < 0
    · have value : -(year.natAbs : Int) = year := by omega
      have spelled := LooseYear.minus (numeral_padded 4 year.natAbs)
      rw [value] at spelled
      rw [if_pos negative]
      exact spelled
    · have value : (year.natAbs : Int) = year := by omega
      have spelled := LooseYear.plus (numeral_padded 4 year.natAbs)
      rw [value] at spelled
      rw [if_neg negative]
      exact spelled

/-- The text of a date names it. -/
theorem looseDate_toText (date : Date)
    : LooseDate date.toText.toList date.year date.month date.day := by
  obtain ⟨-, -, -, month_le, -, day_le⟩ := Date.isValid_iff.mp date.isValid
  have day_le_31 : date.day ≤ 31 := Nat.le_trans day_le (daysInMonth_le date.year date.month)
  have number {count : Nat} (small : count ≤ 31) : LooseNumeral 2 (padded 2 count).toList count := by
    have fits : (Nat.toDigits 10 count).length ≤ 2 :=
      (Nat.length_toDigits_le_iff (by decide) (by decide)).mpr (by omega)
    exact .bare (numeral_padded 2 count) (Nat.le_of_eq (length_padded fits))
  have dash : "-".toList = ['-'] := rfl
  simp only [Date.toText, String.toList_append, dash, List.append_assoc, List.cons_append, List.nil_append]
  exact .hyphenated (looseYear_written date.year) (number (Nat.le_trans month_le (by decide)))
    (number day_le_31)

/-- A date is read back from its text. -/
theorem date?_toText (date : Date) : date? date.toText.toList = some date := by
  have stops : ∀ character ∈ ([] : List Char).head?, character.isDigit = false := nofun
  have read := looseDate_loose (looseDate_toText date) stops
  rw [List.append_nil] at read
  rw [date?, whole_eq_some_iff.mpr read, Option.bind_some, Date.ofParts?_eq_some_iff]
  exact ⟨rfl, rfl, rfl⟩

end Calendar

/-- Different dates have different texts. -/
theorem Date.eq_of_toText {left right : Date} (same : left.toText = right.toText) : left = right := by
  have read := Calendar.date?_toText left
  rw [same, Calendar.date?_toText] at read
  exact (Option.some.inj read).symm

-----------------------------------------------------------------------------------------
-- Identifiers
-----------------------------------------------------------------------------------------

namespace Uuid

theorem hexDigit?_digitChar {value : Nat} (small : value < 16)
    : hexDigit? value.digitChar = some value := by
  have digit : ∀ value < 16, hexDigit? value.digitChar = some value := by decide
  exact digit value small

/-- The hexadecimal digits of a number have values that denote the number, by induction on the number
without its last digit. -/
theorem mapM_hexDigit?_toDigits (number : Nat)
    : ∃ values, (Nat.toDigits 16 number).mapM hexDigit? = some values
        ∧ values.foldl (fun total digit => 16 * total + digit) 0 = number := by
  induction number using Nat.strongRecOn with
  | ind number ih =>
      rcases Nat.lt_or_ge number 16 with small | large
      · refine ⟨[number], ?_, by simp⟩
        rw [Nat.toDigits_of_lt_base small]
        simp [hexDigit?_digitChar small]
      · obtain ⟨values, read, total⟩ := ih (number / 16) (by omega)
        have last : number % 16 < 16 := Nat.mod_lt _ (by decide)
        refine ⟨values ++ [number % 16], ?_, ?_⟩
        · rw [Nat.toDigits_of_base_le (by decide) large, List.mapM_append, read]
          simp [hexDigit?_digitChar last]
        · rw [List.foldl_append, total]
          simp only [List.foldl_cons, List.foldl_nil]
          omega

/-- Zeros in front have the value zero and leave what the digits after them denote. -/
theorem mapM_hexDigit?_zeros (count : Nat)
    : (List.replicate count '0').mapM hexDigit? = some (List.replicate count 0)
      ∧ (List.replicate count 0).foldl (fun total digit => 16 * total + digit) 0 = 0 := by
  have zero : hexDigit? '0' = some 0 := rfl
  induction count with
  | zero => simp
  | succ count ih => simp [List.replicate_succ, zero, ih]

theorem length_digits (uuid : Uuid) : uuid.digits.length = 32 := by
  have short : (Nat.toDigits 16 uuid.bits.toNat).length ≤ 32 :=
    (Nat.length_toDigits_le_iff (by decide) (by decide)).mpr uuid.bits.isLt
  simp [digits, short]

theorem ofDigits?_digits (uuid : Uuid) : ofDigits? uuid.digits = some uuid := by
  obtain ⟨values, read, total⟩ := mapM_hexDigit?_toDigits uuid.bits.toNat
  obtain ⟨zeros, nothing⟩ := mapM_hexDigit?_zeros (32 - (Nat.toDigits 16 uuid.bits.toNat).length)
  have all_read : uuid.digits.mapM hexDigit?
      = some (List.replicate (32 - (Nat.toDigits 16 uuid.bits.toNat).length) 0 ++ values) := by
    simp [digits, List.mapM_append, zeros, read]
  simp only [ofDigits?, length_digits, if_true, all_read, Option.map_some, List.foldl_append,
    nothing, total, BitVec.ofNat_toNat, BitVec.setWidth_eq]

/-- Groups with hyphens between them are read as the groups alone. -/
theorem ofHyphenated?_groups {first second third fourth fifth : List Char}
    (eight : first.length = 8) (four : second.length = 4) (again : third.length = 4)
    (last : fourth.length = 4) (twelve : fifth.length = 12)
    : ofHyphenated?
        (first ++ '-' :: second ++ '-' :: third ++ '-' :: fourth ++ '-' :: fifth)
      = ofDigits? (first ++ second ++ third ++ fourth ++ fifth) := by
  have places
      : (first ++ '-' :: second ++ '-' :: third ++ '-' :: fourth ++ '-' :: fifth).length = 36
        ∧ [8, 13, 18, 23].all (fun place =>
            (first ++ '-' :: second ++ '-' :: third ++ '-' :: fourth ++ '-' :: fifth)[place]?
              == some '-') = true := by
    simp [List.getElem?_append, eight, four, again, last, twelve]
  rw [ofHyphenated?, if_pos places]
  simp [List.drop_append, List.drop_eq_nil_of_le, eight, four, again, last]

/-- An identifier is read back from its text. -/
theorem ofText?_toText (uuid : Uuid) : ofText? uuid.toText.toList = some uuid := by
  have length : uuid.toText.toList.length = 36 := by
    simp [toText, length_digits]
  have rejoined : uuid.digits.take 8 ++ (uuid.digits.drop 8).take 4 ++ (uuid.digits.drop 12).take 4
      ++ (uuid.digits.drop 16).take 4 ++ uuid.digits.drop 20 = uuid.digits := by
    rw [← List.take_add, ← List.take_add, ← List.take_add, List.take_append_drop]
  calc ofText? uuid.toText.toList
    _ = ofHyphenated? uuid.toText.toList := by simp [ofText?, length]
    _ = ofDigits? uuid.digits := by
          rw [toText, String.toList_ofList, ofHyphenated?_groups, rejoined]
          all_goals simp [length_digits]
    _ = some uuid := ofDigits?_digits uuid

/-- Different identifiers have different texts. -/
theorem eq_of_toText {left right : Uuid} (same : left.toText = right.toText) : left = right := by
  have read := ofText?_toText left
  rw [same, ofText?_toText] at read
  exact (Option.some.inj read).symm

end Uuid

end TypedQuery
