import TypedQuery.Calendar.Reader
import TypedQuery.Proofs.Text.Reading

/-! Spelled dates, and what reads them. The reader of loose dates takes every text that names a date, whether
there is such a date or not. Where numbers have to be of full width the same texts are read as by the loose
readers, so that no text is read as different dates.
-/

namespace TypedQuery.Calendar

open Text Text.Reader

variable {text rest : List Char} {year : Int} {month day width most count : Nat}

-----------------------------------------------------------------------------------------
-- Numbers
-----------------------------------------------------------------------------------------

/-- A numeral of exactly so many digits. -/
structure FixedNumeral (width : Nat) (text : List Char) (count : Nat) : Prop
    extends Numeral text count where
  full : text.length = width

/-- A numeral of at most so many digits, with any white space before it. -/
inductive LooseNumeral (most : Nat) : List Char → Nat → Prop
  | spaced {blank digits : List Char} {count : Nat}
    (blanks : ∀ character ∈ blank, isBlank character = true) (numeral : Numeral digits count)
    (fits : digits.length ≤ most)
    : LooseNumeral most (blank ++ digits) count

/-- No digit is missing, so whatever follows is no part of the numeral. -/
theorem FixedNumeral.stops (numeral : FixedNumeral width text count) (rest : List Char)
    : text.length < width → ∀ character ∈ rest.head?, character.isDigit = false :=
  fun few => absurd numeral.full (Nat.ne_of_lt few)

theorem LooseNumeral.bare (numeral : Numeral text count) (fits : text.length ≤ most)
    : LooseNumeral most text count := by
  have blanks : ∀ character ∈ ([] : List Char), isBlank character = true := nofun
  exact .spaced blanks numeral fits

theorem looseNumber_append {blank digits : List Char}
    (blanks : ∀ character ∈ blank, isBlank character = true) (numeral : Numeral digits count)
    (fits : digits.length ≤ most)
    (stops : digits.length < most → ∀ character ∈ rest.head?, character.isDigit = false)
    : looseNumber most (blank ++ digits ++ rest) = some (count, rest) := by
  have skipped : trimStart (blank ++ digits ++ rest) = digits ++ rest := by
    rw [trimStart, List.append_assoc, List.dropWhile_append_of_pos blanks]
    exact numeral.trimmed.trimStart_append rest
  rw [looseNumber, skipped, digitsUpTo_numeral numeral fits stops, ← numeral.ofDigits_eq]
  rfl

theorem looseNumber_loose (number : LooseNumeral most text count)
    (stops : ∀ character ∈ rest.head?, character.isDigit = false)
    : looseNumber most (text ++ rest) = some (count, rest) := by
  cases number with
  | spaced blanks numeral fits => exact looseNumber_append blanks numeral fits fun _ => stops

theorem looseNumber_fixed (numeral : FixedNumeral width text count)
    : looseNumber width (text ++ rest) = some (count, rest) := by
  have blanks : ∀ character ∈ ([] : List Char), isBlank character = true := nofun
  exact looseNumber_append blanks numeral.toNumeral (Nat.le_of_eq numeral.full) (numeral.stops rest)

/-- What reads numbers of full width takes the numerals that have it. -/
theorem fixedNumber_eq_some_iff
    : fixedNumber width text = some (count, rest)
      ↔ ∃ digits, text = digits ++ rest ∧ FixedNumeral width digits count := by
  rw [fixedNumber, bind_eq_some_iff]
  constructor
  · rintro ⟨digits, left, read, kept⟩
    obtain ⟨rfl, numeral⟩ := numeral_of_digitsUpTo read
    split at kept
    · next full =>
      obtain ⟨rfl, rfl⟩ := Prod.mk.inj (pure_eq_some_iff.mp kept)
      exact ⟨digits, rfl, numeral, full⟩
    · cases kept
  · rintro ⟨digits, rfl, numeral⟩
    have read := digitsUpTo_numeral numeral.toNumeral (Nat.le_of_eq numeral.full) (numeral.stops rest)
    refine ⟨digits, rest, read, ?_⟩
    rw [if_pos numeral.full, numeral.ofDigits_eq]
    rfl

theorem fixedNumber_fixed (numeral : FixedNumeral width text count)
    : fixedNumber width (text ++ rest) = some (count, rest) :=
  fixedNumber_eq_some_iff.mpr ⟨text, rfl, numeral⟩

-----------------------------------------------------------------------------------------
-- Years
-----------------------------------------------------------------------------------------

/-- A year: a numeral of at most four digits, or of any number of them after a sign. -/
inductive LooseYear : List Char → Int → Prop
  | plain {digits : List Char} {count : Nat} (numeral : Numeral digits count) (fits : digits.length ≤ 4)
    : LooseYear digits count
  | plus {digits : List Char} {count : Nat} (numeral : Numeral digits count)
    : LooseYear ('+' :: digits) count
  | minus {digits : List Char} {count : Nat} (numeral : Numeral digits count)
    : LooseYear ('-' :: digits) (-count)

theorem looseYear_unsigned (numeral : Numeral text count) (fits : text.length ≤ 4)
    (stops : text.length < 4 → ∀ character ∈ rest.head?, character.isDigit = false)
    : looseYear (text ++ rest) = some ((count : Int), rest) := by
  cases text with
  | nil => exact absurd rfl numeral.filled
  | cons first others =>
      have digit : first.isDigit = true := numeral.isDigit_first
      rw [looseYear, numeral.trimmed.trimStart_append]
      split
      · next same =>
        obtain ⟨rfl, -⟩ := List.cons.inj same
        cases digit
      · next same =>
        obtain ⟨rfl, -⟩ := List.cons.inj same
        cases digit
      · rw [digitsUpTo_numeral numeral fits stops, ← numeral.ofDigits_eq]
        rfl

/-- After a sign all digits are those of the year. -/
theorem digitsUpTo_length (numeral : Numeral text count)
    (stops : ∀ character ∈ rest.head?, character.isDigit = false)
    : digitsUpTo (text ++ rest).length (text ++ rest) = some (text, rest) :=
  digitsUpTo_numeral numeral (by simp) fun _ => stops

theorem looseYear_loose (spelled : LooseYear text year)
    (stops : ∀ character ∈ rest.head?, character.isDigit = false)
    : looseYear (text ++ rest) = some (year, rest) := by
  cases spelled with
  | plain numeral fits => exact looseYear_unsigned numeral fits fun _ => stops
  | plus numeral =>
      rw [List.cons_append, looseYear, trimStart_of_not_blank (by decide)]
      simp only [digitsUpTo_length numeral stops, Option.map_some, numeral.ofDigits_eq]
  | minus numeral =>
      rw [List.cons_append, looseYear, trimStart_of_not_blank (by decide)]
      simp only [digitsUpTo_length numeral stops, Option.map_some, numeral.ofDigits_eq]

theorem LooseYear.trimmed (spelled : LooseYear text year) : Trimmed text := by
  cases spelled with
  | plain numeral => exact numeral.trimmed
  | plus numeral => exact .of_solid nofun (List.forall_mem_cons.mpr ⟨by decide, numeral.not_blank⟩)
  | minus numeral => exact .of_solid nofun (List.forall_mem_cons.mpr ⟨by decide, numeral.not_blank⟩)

-----------------------------------------------------------------------------------------
-- Dates
-----------------------------------------------------------------------------------------

/-- A year, a month and a day with hyphens between them, whether there is such a date or not. -/
inductive LooseDate : List Char → Int → Nat → Nat → Prop
  | hyphenated {years months days : List Char} {year : Int} {month day : Nat}
    (yearSpelled : LooseYear years year) (monthSpelled : LooseNumeral 2 months month)
    (daySpelled : LooseNumeral 2 days day)
    : LooseDate (years ++ '-' :: (months ++ '-' :: days)) year month day

/-- Four digits of the year, two of the month and two of the day with hyphens between them. -/
inductive FixedDate : List Char → Int → Nat → Nat → Prop
  | hyphenated {years months days : List Char} {year month day : Nat}
    (yearSpelled : FixedNumeral 4 years year) (monthSpelled : FixedNumeral 2 months month)
    (daySpelled : FixedNumeral 2 days day)
    : FixedDate (years ++ '-' :: (months ++ '-' :: days)) year month day

theorem looseDate_loose (spelled : LooseDate text year month day)
    (stops : ∀ character ∈ rest.head?, character.isDigit = false)
    : looseDate (text ++ rest) = some (⟨year, month, day⟩, rest) := by
  have hyphen (rest : List Char) : ∀ character ∈ ('-' :: rest).head?, character.isDigit = false := by
    simp
  cases spelled with
  | hyphenated yearSpelled monthSpelled daySpelled =>
      simp only [looseDate, List.append_assoc, List.cons_append]
      rw [bind_of_read (looseYear_loose yearSpelled (hyphen _)), bind_of_read (character_cons _ _),
        bind_of_read (looseNumber_loose monthSpelled (hyphen _)), bind_of_read (character_cons _ _),
        bind_of_read (looseNumber_loose daySpelled stops)]
      rfl

theorem looseDate_fixed (spelled : FixedDate text year month day)
    : looseDate (text ++ rest) = some (⟨year, month, day⟩, rest) := by
  cases spelled with
  | hyphenated yearSpelled monthSpelled daySpelled =>
      have fits := Nat.le_of_eq yearSpelled.full
      simp only [looseDate, List.append_assoc, List.cons_append]
      rw [bind_of_read (looseYear_unsigned yearSpelled.toNumeral fits (yearSpelled.stops _)),
        bind_of_read (character_cons _ _), bind_of_read (looseNumber_fixed monthSpelled),
        bind_of_read (character_cons _ _), bind_of_read (looseNumber_fixed daySpelled)]
      rfl

theorem LooseDate.trimmed (spelled : LooseDate text year month day) : Trimmed text := by
  cases spelled with
  | @hyphenated years months _ _ _ _ yearSpelled monthSpelled daySpelled =>
      cases daySpelled with
      | @spaced blank digits _ blanks numeral fits =>
          have ends := yearSpelled.trimmed.between numeral.trimmed ('-' :: (months ++ '-' :: blank))
          simpa using ends

theorem FixedDate.trimmed (spelled : FixedDate text year month day) : Trimmed text := by
  cases spelled with
  | @hyphenated years months _ _ _ _ yearSpelled monthSpelled daySpelled =>
      have ends := yearSpelled.trimmed.between daySpelled.trimmed ('-' :: (months ++ ['-']))
      simpa using ends

/-- Dates of full width, as they stand before a time with an offset. -/
def fixedDate : Reader DateParts := do
  let year ← fixedNumber 4
  character '-'
  let month ← fixedNumber 2
  character '-'
  let day ← fixedNumber 2
  pure ⟨year, month, day⟩

theorem fixedDate_eq_some_iff {parts : DateParts}
    : fixedDate text = some (parts, rest)
      ↔ ∃ date, text = date ++ rest ∧ FixedDate date parts.year parts.month parts.day := by
  constructor
  · simp only [fixedDate, bind_eq_some_iff, fixedNumber_eq_some_iff, character_eq_some_iff,
      pure_eq_some_iff]
    rintro ⟨year, _, ⟨years, rfl, yearSpelled⟩,
      ⟨⟩, _, rfl, month, _, ⟨months, rfl, monthSpelled⟩,
      ⟨⟩, _, rfl, day, _, ⟨days, rfl, daySpelled⟩, ⟨⟩⟩
    exact ⟨_, by simp, .hyphenated yearSpelled monthSpelled daySpelled⟩
  · rintro ⟨date, rfl, spelled⟩
    obtain ⟨year, month, day⟩ := parts
    cases spelled with
    | hyphenated yearSpelled monthSpelled daySpelled =>
        simp only [fixedDate, List.append_assoc, List.cons_append]
        rw [bind_of_read (fixedNumber_fixed yearSpelled), bind_of_read (character_cons _ _),
          bind_of_read (fixedNumber_fixed monthSpelled), bind_of_read (character_cons _ _),
          bind_of_read (fixedNumber_fixed daySpelled)]
        rfl

/-- A date of full width is the same date to the loose reader. -/
theorem looseDate_of_fixedDate {parts : DateParts} (read : fixedDate text = some (parts, rest))
    : looseDate text = some (parts, rest) := by
  obtain ⟨date, rfl, spelled⟩ := fixedDate_eq_some_iff.mp read
  exact looseDate_fixed spelled

end TypedQuery.Calendar
