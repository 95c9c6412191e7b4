import Mathlib.Data.Rat.Floor
import TypedQuery.Proofs.Calendar.Spelling

/-! Spelled times of day and offsets from universal time. A time of day is a number of seconds since midnight,
with a fraction of any number of decimals. What reads it keeps no more than nine of them, which leaves its
milliseconds as they are.
-/

namespace TypedQuery.Calendar

open Text Text.Reader

variable {text rest : List Char} {part seconds : ℚ} {shift : Int} {parts : TimeParts}

-----------------------------------------------------------------------------------------
-- Fractions of a second
-----------------------------------------------------------------------------------------

/-- A point and decimals after it, or neither, and the part of a second that they are. -/
inductive Decimals : List Char → ℚ → Prop
  | none : Decimals [] 0
  | point {digits : List Char} {count : Nat} (numeral : Numeral digits count)
    : Decimals ('.' :: digits) (count / 10 ^ digits.length)

/-- Decimals past the ninth do not matter for the milliseconds, and missing ones are zeros. -/
theorem milliseconds_of_nine (count length : Nat)
    : count / 10 ^ (length - 9) * 10 ^ (9 - min 9 length) / 1000000 = count * 1000 / 10 ^ length := by
  rcases Nat.le_total length 9 with short | long
  · obtain ⟨zeros, nine⟩ := Nat.exists_eq_add_of_le short
    have scale : 10 ^ zeros * 10 ^ length = 1000 * 1000000 := by
      rw [← Nat.pow_add, Nat.add_comm, ← nine]
    rw [Nat.sub_eq_zero_of_le short, Nat.min_eq_right short, nine, Nat.add_sub_cancel_left, Nat.pow_zero,
      Nat.div_one]
    calc count * 10 ^ zeros / 1000000
      _ = count * 10 ^ zeros * 10 ^ length / (1000000 * 10 ^ length) :=
          (Nat.mul_div_mul_right _ _ (Nat.pow_pos (by decide))).symm
      _ = count * 1000 * 1000000 / (10 ^ length * 1000000) := by
          rw [Nat.mul_assoc, scale, Nat.mul_comm 1000000, Nat.mul_assoc]
      _ = count * 1000 / 10 ^ length := Nat.mul_div_mul_right _ _ (by decide)
  · obtain ⟨further, rfl⟩ := Nat.exists_eq_add_of_le long
    rw [Nat.add_sub_cancel_left, Nat.min_eq_left long, Nat.sub_self, Nat.pow_zero, Nat.mul_one]
    calc count / 10 ^ further / 1000000
      _ = count / (10 ^ further * 1000000) := Nat.div_div_eq_div_mul _ _ _
      _ = count * 1000 / (10 ^ further * 1000000 * 1000) :=
          (Nat.mul_div_mul_right _ _ (by decide)).symm
      _ = count * 1000 / 10 ^ (9 + further) := by
          rw [Nat.mul_assoc, Nat.pow_add, Nat.mul_comm (10 ^ 9)]

/-- The milliseconds of a fraction are read, rounded down. -/
theorem fractionOfSecond_decimals (spelled : Decimals text part)
    (stops : ∀ character ∈ rest.head?, character.isDigit = false ∧ character ≠ '.')
    : ∃ nanoseconds : Nat, fractionOfSecond (text ++ rest) = some (nanoseconds, rest)
        ∧ (nanoseconds / 1000000 : Nat) = ⌊part * 1000⌋ := by
  cases spelled with
  | none =>
      refine ⟨0, ?_, by simp⟩
      -- A point after the seconds would begin a fraction.
      unfold fractionOfSecond
      split
      · next point =>
        obtain rfl : rest = _ := point
        exact absurd rfl (stops '.' rfl).2
      · rfl
  | @point digits count numeral =>
      have digitStops : ∀ character ∈ rest.head?, character.isDigit = false :=
        fun character first => (stops character first).1
      have room : 0 < 9 := by decide
      have read := digitsUpTo_append room numeral fun _ => digitStops
      have left : (digits.drop 9 ++ rest).dropWhile Char.isDigit = rest := by
        rw [List.dropWhile_append_of_pos fun character member =>
          numeral.numeric character (List.mem_of_mem_drop member)]
        cases rest with
        | nil => rfl
        | cons first rest => rw [List.dropWhile_cons_of_neg (by simp [digitStops first rfl])]
      refine ⟨ofDigits (digits.take 9) * 10 ^ (9 - (digits.take 9).length), ?_, ?_⟩
      · simp only [List.cons_append, fractionOfSecond, read, Option.map_some, left]
        rfl
      · have scaled : (count / 10 ^ digits.length * 1000 : ℚ)
            = ((count * 1000 : Nat) : ℚ) / ((10 ^ digits.length : Nat) : ℚ) := by
          push_cast
          ring
        rw [List.length_take, ofDigits_take numeral.numeric, numeral.ofDigits_eq, milliseconds_of_nine,
          scaled, Rat.floor_natCast_div_natCast]
        rfl

-----------------------------------------------------------------------------------------
-- Times of day
-----------------------------------------------------------------------------------------

/-- Two digits each of the hour, the minute and the second with colons between them, with or without a
fraction, and the number of seconds since midnight. -/
inductive TimeOfDay : List Char → ℚ → Prop
  | clock {hours minutes seconds decimals : List Char} {hour minute second : Nat} {part : ℚ}
    (hourSpelled : FixedNumeral 2 hours hour) (minuteSpelled : FixedNumeral 2 minutes minute)
    (secondSpelled : FixedNumeral 2 seconds second) (decimalsSpelled : Decimals decimals part)
    (hour_lt : hour < 24) (minute_lt : minute < 60) (second_lt : second < 60)
    : TimeOfDay (hours ++ ':' :: (minutes ++ ':' :: (seconds ++ decimals)))
        (hour * 3600 + minute * 60 + second + part)

theorem TimeOfDay.trimmed (spelled : TimeOfDay text seconds) : Trimmed text := by
  cases spelled with
  | @clock hours minutes seconds _ _ _ _ _ hourSpelled _ secondSpelled decimalsSpelled =>
      cases decimalsSpelled with
      | none =>
          have ends := hourSpelled.trimmed.between secondSpelled.trimmed (':' :: (minutes ++ [':']))
          simpa using ends
      | point numeral =>
          have ends := hourSpelled.trimmed.between numeral.trimmed
            (':' :: (minutes ++ ':' :: (seconds ++ ['.'])))
          simpa using ends

/-- The parts of a time of day that clocks show at a number of seconds since midnight. -/
structure Shows (parts : TimeParts) (seconds : ℚ) : Prop where
  hour_lt : parts.hour < 24
  minute_lt : parts.minute < 60
  second_lt : parts.second < 60
  milliseconds
    : ((parts.hour * 3600 + parts.minute * 60 + parts.second) * 1000 + parts.nanosecond / 1000000 : Nat)
      = ⌊seconds * 1000⌋

/-- Times of full width, as they stand before an offset. -/
def fixedTime : Reader TimeParts := do
  let hour ← fixedNumber 2
  character ':'
  let minute ← fixedNumber 2
  character ':'
  let second ← fixedNumber 2
  let nanosecond ← fractionOfSecond
  pure ⟨hour, minute, second, nanosecond⟩

theorem fixedTime_timeOfDay (spelled : TimeOfDay text seconds)
    (stops : ∀ character ∈ rest.head?, character.isDigit = false ∧ character ≠ '.')
    : ∃ parts, fixedTime (text ++ rest) = some (parts, rest) ∧ Shows parts seconds := by
  cases spelled with
  | @clock _ _ _ _ hour minute second part hourSpelled minuteSpelled secondSpelled decimalsSpelled
      hour_lt minute_lt second_lt =>
      obtain ⟨nanosecond, read, millisecond⟩ := fractionOfSecond_decimals decimalsSpelled stops
      refine ⟨⟨hour, minute, second, nanosecond⟩, ?_, hour_lt, minute_lt, second_lt, ?_⟩
      · simp only [fixedTime, List.append_assoc, List.cons_append]
        rw [bind_of_read (fixedNumber_fixed hourSpelled), bind_of_read (character_cons _ _),
          bind_of_read (fixedNumber_fixed minuteSpelled), bind_of_read (character_cons _ _),
          bind_of_read (fixedNumber_fixed secondSpelled), bind_of_read read]
        rfl
      · have whole : (hour * 3600 + minute * 60 + second + part : ℚ) * 1000
            = ((hour * 3600 + minute * 60 + second) * 1000 : Nat) + part * 1000 := by
          push_cast
          ring
        rw [whole, Int.floor_natCast_add, ← millisecond]
        rfl

/-- A time of full width is the same time to the loose reader. -/
theorem looseTime_of_fixedTime (read : fixedTime text = some (parts, rest))
    : looseTime text = some (parts, rest) := by
  simp only [fixedTime, bind_eq_some_iff, fixedNumber_eq_some_iff, character_eq_some_iff] at read
  obtain ⟨hour, _, ⟨hours, rfl, hourSpelled⟩,
    ⟨⟩, _, rfl, minute, _, ⟨minutes, rfl, minuteSpelled⟩,
    ⟨⟩, _, rfl, second, _, ⟨digits, rfl, secondSpelled⟩, read⟩ := read
  rw [looseTime, bind_of_read (looseNumber_fixed hourSpelled), bind_of_read (character_cons _ _),
    bind_of_read (looseNumber_fixed minuteSpelled), bind_of_read (character_cons _ _),
    bind_of_read (looseNumber_fixed secondSpelled), bind_eq_some_iff]
  exact read

-----------------------------------------------------------------------------------------
-- Offsets
-----------------------------------------------------------------------------------------

/-- A sign and two digits each of hours and minutes, less than a day in all, and the number of seconds that
clocks at the place of the offset are ahead of universal time. -/
inductive OffsetFromUniversal : List Char → Int → Prop
  | ahead {hours minutes : List Char} {hour minute : Nat} (hourSpelled : FixedNumeral 2 hours hour)
    (minuteSpelled : FixedNumeral 2 minutes minute) (hour_lt : hour < 24) (minute_lt : minute < 60)
    : OffsetFromUniversal ('+' :: (hours ++ ':' :: minutes)) (hour * 3600 + minute * 60)
  | behind {hours minutes : List Char} {hour minute : Nat} (hourSpelled : FixedNumeral 2 hours hour)
    (minuteSpelled : FixedNumeral 2 minutes minute) (hour_lt : hour < 24) (minute_lt : minute < 60)
    : OffsetFromUniversal ('-' :: (hours ++ ':' :: minutes)) (-(hour * 3600 + minute * 60))

theorem OffsetFromUniversal.trimmed (spelled : OffsetFromUniversal text shift) : Trimmed text := by
  cases spelled with
  | @ahead hours _ _ _ _ minuteSpelled =>
      have sign : Trimmed ['+'] := .of_solid nofun (List.forall_mem_singleton.mpr rfl)
      have ends := sign.between minuteSpelled.trimmed (hours ++ [':'])
      simpa using ends
  | @behind hours _ _ _ _ minuteSpelled =>
      have sign : Trimmed ['-'] := .of_solid nofun (List.forall_mem_singleton.mpr rfl)
      have ends := sign.between minuteSpelled.trimmed (hours ++ [':'])
      simpa using ends

theorem OffsetFromUniversal.stops (spelled : OffsetFromUniversal text shift)
    : ∀ character ∈ text.head?, character.isDigit = false ∧ character ≠ '.' := by
  cases spelled with
  | ahead => simp
  | behind => simp

/-- The sign, hours and minutes that an offset is read from. -/
theorem offset_signed {sign : Char} {hours minutes : List Char} {hour minute : Nat}
    (isSign : sign = '+' ∨ sign = '-') (hourSpelled : FixedNumeral 2 hours hour)
    (minuteSpelled : FixedNumeral 2 minutes minute) (hour_lt : hour < 24) (minute_lt : minute < 60)
    : offset (sign :: (hours ++ ':' :: minutes))
      = some
          (if sign = '+' then ↑(hour * 3600 + minute * 60) else -↑(hour * 3600 + minute * 60), []) := by
  have minuteRead : fixedNumber 2 minutes = some (minute, []) :=
    fixedNumber_eq_some_iff.mpr ⟨minutes, (List.append_nil minutes).symm, minuteSpelled⟩
  have noLetter : ¬ (sign = 'Z' ∨ sign = 'z') := by
    rcases isSign with rfl | rfl <;> decide
  have marked : sign = '+' ∨ sign = '-' ∨ sign = '\u2212' := by
    rcases isSign with plus | minus
    · exact .inl plus
    · exact .inr (.inl minus)
  simp only [offset, if_neg noLetter, if_pos marked]
  rw [bind_of_read (fixedNumber_fixed hourSpelled), bind_of_read (character_cons _ _),
    bind_of_read minuteRead, if_pos ⟨hour_lt, minute_lt⟩]
  rfl

theorem offset_spelled (spelled : OffsetFromUniversal text shift) : offset text = some (shift, []) := by
  cases spelled with
  | ahead hourSpelled minuteSpelled hour_lt minute_lt =>
      exact offset_signed (.inl rfl) hourSpelled minuteSpelled hour_lt minute_lt
  | behind hourSpelled minuteSpelled hour_lt minute_lt =>
      exact offset_signed (.inr rfl) hourSpelled minuteSpelled hour_lt minute_lt

end TypedQuery.Calendar
