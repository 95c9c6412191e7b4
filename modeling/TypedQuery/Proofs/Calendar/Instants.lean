import TypedQuery.Operand
import TypedQuery.Proofs.Calendar.Clock
import TypedQuery.Proofs.Calendar.Days

/-! Tokens of points in time. Four ways of writing them are tried one after the other, each of them starting
with a date, and what one of them reads no other reads as a different date or time. So a token denotes the
moment that it spells, and none if it starts with a date that there is not.
-/

namespace TypedQuery

namespace Calendar

open Text Text.Reader

variable {text clock : List Char} {date : Date} {parts : DateParts} {time : TimeParts} {seconds : ℚ}
  {shift : Int}

-----------------------------------------------------------------------------------------
-- A date at the start
-----------------------------------------------------------------------------------------

/-- What stands between a date and a time with an offset. -/
def dateMark : Reader Unit :=
  character 'T' <|> character 't' <|> character ' '

theorem dateMark_eq_some {rest : List Char} (read : dateMark text = some ((), rest))
    : ∃ mark, text = mark :: rest := by
  have chosen : (character 'T' text <|> character 't' text <|> character ' ' text) = some ((), rest) := read
  simp only [Option.orElse_eq_orElse, Option.orElse_eq_or, Option.or_eq_some_iff,
    character_eq_some_iff] at chosen
  rcases chosen with letter | ⟨-, small | ⟨-, space⟩⟩
  · exact ⟨'T', letter⟩
  · exact ⟨'t', small⟩
  · exact ⟨' ', space⟩

theorem offsetDateTime_eq
    : offsetDateTime = (do
        let date ← fixedDate
        dateMark
        let time ← fixedTime
        let shift ← offset
        pure (date, time, shift)) := by
  simp only [offsetDateTime, fixedDate, dateMark, fixedTime, bind_assoc, pure_bind]

theorem offsetDateTime_parts {rest : List Char}
    (read : offsetDateTime text = some ((parts, time, shift), rest))
    : ∃ mark clock last, looseDate text = some (parts, mark :: clock)
        ∧ looseTime clock = some (time, last) ∧ offset last = some (shift, rest) := by
  simp only [offsetDateTime_eq, bind_eq_some_iff, pure_eq_some_iff] at read
  obtain ⟨_, _, dateRead, ⟨⟩, clock, markRead, _, last, timeRead, _, _, shiftRead, ⟨⟩⟩ := read
  obtain ⟨mark, rfl⟩ := dateMark_eq_some markRead
  exact ⟨mark, clock, last, looseDate_of_fixedDate dateRead, looseTime_of_fixedTime timeRead, shiftRead⟩

/-- The reader takes a date from the start of each text that it takes, and more after it. -/
def StartsWithDate {α : Type} (reader : Reader (DateParts × α)) : Prop :=
  ∀ {text value rest}, reader text = some (value, rest)
    → ∃ left, left ≠ [] ∧ looseDate text = some (value.1, left)

theorem startsWithDate_offsetDateTime : StartsWithDate offsetDateTime := by
  intro text value rest read
  obtain ⟨mark, clock, _, dateRead, -⟩ := offsetDateTime_parts read
  exact ⟨mark :: clock, nofun, dateRead⟩

theorem startsWithDate_joinedDateTime : StartsWithDate joinedDateTime := by
  intro text value rest read
  simp only [joinedDateTime, bind_eq_some_iff, pure_eq_some_iff, character_eq_some_iff] at read
  obtain ⟨_, _, dateRead, _, clock, rfl, _, _, _, ⟨⟩⟩ := read
  exact ⟨'T' :: clock, nofun, dateRead⟩

theorem startsWithDate_spacedDateTime : StartsWithDate spacedDateTime := by
  intro text value rest read
  simp only [spacedDateTime, bind_eq_some_iff, pure_eq_some_iff] at read
  obtain ⟨_, left, dateRead, _, clock, skipped, _, _, timeRead, ⟨⟩⟩ := read
  refine ⟨left, ?_, dateRead⟩
  rintro rfl
  obtain ⟨-, rfl⟩ := Prod.mk.inj (Option.some.inj skipped)
  cases timeRead

-----------------------------------------------------------------------------------------
-- Dates that are all there is, and dates that there are not
-----------------------------------------------------------------------------------------

theorem instant?_eq_none (missing : Date.ofParts? parts.year parts.month parts.day = none)
    : instant? parts time = none := by
  rw [instant?, missing, Option.bind_none]

/-- If a text is a date, or starts with one that there is not, no reader of dates and times finds a moment in
it. -/
theorem missing_of_whole {α : Type} {reader : Reader (DateParts × α)} {left : List Char}
    {value : DateParts × α} (starts : StartsWithDate reader)
    (dateRead : looseDate text = some (parts, left))
    (ended : left = [] ∨ Date.ofParts? parts.year parts.month parts.day = none)
    (read : whole reader text = some value)
    : Date.ofParts? value.1.year value.1.month value.1.day = none := by
  obtain ⟨further, filled, sameRead⟩ := starts (whole_eq_some_iff.mp read)
  obtain ⟨rfl, rfl⟩ := Prod.mk.inj (Option.some.inj (dateRead.symm.trans sameRead))
  exact ended.resolve_left filled

theorem offsetInstant?_eq_none {left : List Char} (dateRead : looseDate text = some (parts, left))
    (ended : left = [] ∨ Date.ofParts? parts.year parts.month parts.day = none)
    : offsetInstant? text = none := by
  rw [offsetInstant?, Option.bind_eq_none_iff]
  rintro ⟨date, time, shift⟩ read
  have missing := missing_of_whole startsWithDate_offsetDateTime dateRead ended read
  simp only [instant?_eq_none missing, Option.map_none]

theorem localInstant?_eq_none {reader : Reader (DateParts × TimeParts)} {left : List Char}
    (starts : StartsWithDate reader) (dateRead : looseDate text = some (parts, left))
    (ended : left = [] ∨ Date.ofParts? parts.year parts.month parts.day = none)
    : localInstant? reader text = none := by
  rw [localInstant?, Option.bind_eq_none_iff]
  intro value read
  exact instant?_eq_none (missing_of_whole starts dateRead ended read)

theorem instantOfText?_of_looseDate {left : List Char} (dateRead : looseDate text = some (parts, left))
    (ended : left = [] ∨ Date.ofParts? parts.year parts.month parts.day = none)
    : instantOfText? text = (date? text).map fun date => Instant.ofDateTime date 0 0 := by
  rw [instantOfText?, offsetInstant?_eq_none dateRead ended,
    localInstant?_eq_none startsWithDate_joinedDateTime dateRead ended,
    localInstant?_eq_none startsWithDate_spacedDateTime dateRead ended]
  rfl

theorem date?_eq_some_iff
    : date? text = some date ↔ looseDate text = some (⟨date.year, date.month, date.day⟩, []) := by
  rw [date?, Option.bind_eq_some_iff]
  simp only [whole_eq_some_iff, Date.ofParts?_eq_some_iff]
  constructor
  · rintro ⟨parts, read, year, month, day⟩
    rwa [year, month, day]
  · exact fun read => ⟨_, read, rfl, rfl, rfl⟩

/-- A date is the moment that it begins. -/
theorem instantOfText?_of_date (read : date? text = some date)
    : instantOfText? text = some (Instant.ofDateTime date 0 0) := by
  rw [instantOfText?_of_looseDate (date?_eq_some_iff.mp read) (.inl rfl), read]
  rfl

theorem eq_none_of_missing {rest : List Char} {year : Int} {month day : Nat}
    (spelled : LooseDate text year month day)
    (stops : ∀ character ∈ rest.head?, character.isDigit = false)
    (missing : ∀ date : Date, ¬ (date.year = year ∧ date.month = month ∧ date.day = day))
    : date? (text ++ rest) = none ∧ instantOfText? (text ++ rest) = none := by
  have dateRead := looseDate_loose spelled stops
  have noParts : Date.ofParts? year month day = none :=
    Option.eq_none_iff_forall_ne_some.mpr fun date same => missing date (Date.ofParts?_eq_some_iff.mp same)
  have noDate : date? (text ++ rest) = none := by
    refine Option.eq_none_iff_forall_ne_some.mpr fun date read => ?_
    rw [date?_eq_some_iff, dateRead] at read
    obtain ⟨⟨⟩, -⟩ := Prod.mk.inj (Option.some.inj read)
    exact missing date ⟨rfl, rfl, rfl⟩
  refine ⟨noDate, ?_⟩
  rw [instantOfText?_of_looseDate dateRead (.inr noParts), noDate]
  rfl

-----------------------------------------------------------------------------------------
-- Moments
-----------------------------------------------------------------------------------------

/-- The ways to spell a moment of a date, the seconds since its midnight that clocks show, and the seconds
that these clocks are ahead of universal time. -/
inductive Moment (date : Date) : List Char → ℚ → Int → Prop
  | universal {days clock : List Char} {seconds : ℚ}
    (dateSpelled : FixedDate days date.year date.month date.day) (timeSpelled : TimeOfDay clock seconds)
    : Moment date (days ++ 'T' :: (clock ++ ['Z'])) seconds 0
  | joined {days clock : List Char} {seconds : ℚ}
    (dateSpelled : FixedDate days date.year date.month date.day) (timeSpelled : TimeOfDay clock seconds)
    : Moment date (days ++ 'T' :: clock) seconds 0
  | spaced {days clock : List Char} {seconds : ℚ}
    (dateSpelled : FixedDate days date.year date.month date.day) (timeSpelled : TimeOfDay clock seconds)
    : Moment date (days ++ ' ' :: clock) seconds 0
  | shifted {days clock ahead : List Char} {seconds : ℚ} {shift : Int}
    (dateSpelled : FixedDate days date.year date.month date.day) (timeSpelled : TimeOfDay clock seconds)
    (offsetSpelled : OffsetFromUniversal ahead shift)
    : Moment date (days ++ 'T' :: (clock ++ ahead)) seconds shift
  | midnight {days : List Char} (dateSpelled : FixedDate days date.year date.month date.day)
    : Moment date days 0 0

theorem instant?_of_shows (shows : Shows time seconds)
    : instant? ⟨date.year, date.month, date.day⟩ time
      = some ⟨⌊(date.dayNumber * 86400 + seconds) * 1000⌋⟩ := by
  have found : Date.ofParts? date.year date.month date.day = some date :=
    Date.ofParts?_eq_some_iff.mpr ⟨rfl, rfl, rfl⟩
  have ordinary : ¬ time.second = 60 := Nat.ne_of_lt shows.second_lt
  have clockTime : time.hour < 24 ∧ time.minute < 60 ∧ time.second ≤ 60 :=
    ⟨shows.hour_lt, shows.minute_lt, Nat.le_of_lt shows.second_lt⟩
  have whole : ((date.dayNumber * 86400 + seconds) * 1000 : ℚ)
      = (date.dayNumber * 86400 * 1000 : Int) + seconds * 1000 := by
    push_cast
    ring
  have milliseconds := shows.milliseconds
  simp only [instant?, found, Option.bind_some, if_pos clockTime, if_neg ordinary, Instant.ofDateTime,
    Option.some.injEq, Instant.mk.injEq, whole, Int.floor_intCast_add, ← milliseconds]
  push_cast
  omega

/-- A time of day that ends its text. -/
theorem exists_looseTime (spelled : TimeOfDay text seconds)
    : ∃ time, looseTime text = some (time, []) ∧ Shows time seconds := by
  have stops : ∀ character ∈ ([] : List Char).head?, character.isDigit = false ∧ character ≠ '.' :=
    nofun
  obtain ⟨time, read, shows⟩ := fixedTime_timeOfDay spelled stops
  rw [List.append_nil] at read
  exact ⟨time, looseTime_of_fixedTime read, shows⟩

/-- A date, the letter T, a time of day and an offset are read as the moment that the offset makes of them. -/
theorem offsetInstant?_spelled {days clock ahead : List Char}
    (dateSpelled : FixedDate days date.year date.month date.day) (timeSpelled : TimeOfDay clock seconds)
    (stops : ∀ character ∈ ahead.head?, character.isDigit = false ∧ character ≠ '.')
    (offsetRead : offset ahead = some (shift, []))
    : offsetInstant? (days ++ 'T' :: (clock ++ ahead))
      = some ⟨⌊(date.dayNumber * 86400 + seconds) * 1000⌋ - shift * 1000⟩ := by
  obtain ⟨time, timeRead, shows⟩ := fixedTime_timeOfDay timeSpelled stops
  have dateRead : fixedDate (days ++ 'T' :: (clock ++ ahead))
      = some (⟨date.year, date.month, date.day⟩, 'T' :: (clock ++ ahead)) :=
    fixedDate_eq_some_iff.mpr ⟨days, rfl, dateSpelled⟩
  have read : offsetDateTime (days ++ 'T' :: (clock ++ ahead))
      = some ((⟨date.year, date.month, date.day⟩, time, shift), []) := by
    have markRead : dateMark ('T' :: (clock ++ ahead)) = some ((), clock ++ ahead) := rfl
    rw [offsetDateTime_eq, bind_of_read dateRead, bind_of_read markRead, bind_of_read timeRead,
      bind_of_read offsetRead]
    rfl
  rw [offsetInstant?, whole_eq_some_iff.mpr read]
  simp only [Option.bind_some, instant?_of_shows shows, Option.map_some, Instant.minusSeconds]

/-- A date and a time of day without an offset are read as a moment in universal time. -/
theorem localInstant?_of_read {reader : Reader (DateParts × TimeParts)}
    (read : reader text = some ((⟨date.year, date.month, date.day⟩, time), []))
    (shows : Shows time seconds)
    : localInstant? reader text = some ⟨⌊(date.dayNumber * 86400 + seconds) * 1000⌋⟩ := by
  rw [localInstant?, whole_eq_some_iff.mpr read, Option.bind_some]
  exact instant?_of_shows shows

/-- Without an offset a text is not read as if it had one. -/
theorem offsetInstant?_local {days clock : List Char} {mark : Char} {year : Int} {month day : Nat}
    (dateSpelled : FixedDate days year month day) (timeSpelled : TimeOfDay clock seconds)
    : offsetInstant? (days ++ mark :: clock) = none := by
  rw [offsetInstant?, Option.bind_eq_none_iff]
  rintro ⟨parts, time, shift⟩ read
  obtain ⟨_, _, last, dateRead, timeRead, offsetRead⟩ :=
    offsetDateTime_parts (whole_eq_some_iff.mp read)
  -- The loose readers take the same date and time, and leave nothing for the offset.
  rw [looseDate_fixed dateSpelled] at dateRead
  obtain ⟨rfl, rfl⟩ := List.cons.inj (Prod.mk.inj (Option.some.inj dateRead)).2
  obtain ⟨shown, shownRead, -⟩ := exists_looseTime timeSpelled
  obtain ⟨-, rfl⟩ := Prod.mk.inj (Option.some.inj (shownRead.symm.trans timeRead))
  cases offsetRead

theorem instantOfText?_moment (spelled : Moment date text seconds shift)
    : instantOfText? text
      = some ⟨⌊(date.dayNumber * 86400 + seconds) * 1000⌋ - shift * 1000⟩ := by
  cases spelled with
  | universal dateSpelled timeSpelled =>
      rw [instantOfText?, offsetInstant?_spelled dateSpelled timeSpelled (by simp) rfl]
      rfl
  | shifted dateSpelled timeSpelled offsetSpelled =>
      have read := offsetInstant?_spelled dateSpelled timeSpelled offsetSpelled.stops
        (offset_spelled offsetSpelled)
      rw [instantOfText?, read]
      rfl
  | @joined days clock _ dateSpelled timeSpelled =>
      obtain ⟨time, timeRead, shows⟩ := exists_looseTime timeSpelled
      have read : joinedDateTime (days ++ 'T' :: clock)
          = some ((⟨date.year, date.month, date.day⟩, time), []) := by
        rw [joinedDateTime, bind_of_read (looseDate_fixed dateSpelled), bind_of_read (character_cons _ _),
          bind_of_read timeRead]
        rfl
      rw [instantOfText?, offsetInstant?_local dateSpelled timeSpelled, localInstant?_of_read read shows,
        Int.zero_mul, Int.sub_zero]
      rfl
  | @spaced days clock _ dateSpelled timeSpelled =>
      obtain ⟨time, timeRead, shows⟩ := exists_looseTime timeSpelled
      have notJoined : localInstant? joinedDateTime (days ++ ' ' :: clock) = none := by
        rw [localInstant?, Option.bind_eq_none_iff]
        intro value read
        -- After the date the letter T is asked for, and there is a blank.
        rw [whole_eq_some_iff, joinedDateTime, bind_of_read (looseDate_fixed dateSpelled)] at read
        cases read
      have skipped : (modify trimStart : Reader PUnit) (' ' :: clock) = some (⟨⟩, clock) :=
        congrArg (fun rest => some (PUnit.unit, rest)) timeSpelled.trimmed.start
      have read : spacedDateTime (days ++ ' ' :: clock)
          = some ((⟨date.year, date.month, date.day⟩, time), []) := by
        rw [spacedDateTime, bind_of_read (looseDate_fixed dateSpelled), bind_of_read skipped,
          bind_of_read timeRead]
        rfl
      rw [instantOfText?, offsetInstant?_local dateSpelled timeSpelled, notJoined,
        localInstant?_of_read read shows, Int.zero_mul, Int.sub_zero]
      rfl
  | midnight dateSpelled =>
      have dateRead : looseDate (text ++ []) = _ := looseDate_fixed dateSpelled
      rw [List.append_nil, ← date?_eq_some_iff] at dateRead
      have whole : ((date.dayNumber * 86400 + 0) * 1000 : ℚ) = (date.dayNumber * 86400 * 1000 : Int) := by
        push_cast
        ring
      rw [instantOfText?_of_date dateRead, Instant.ofDateTime, whole, Int.floor_intCast]
      simp

theorem Moment.trimmed (spelled : Moment date text seconds shift) : Trimmed text := by
  cases spelled with
  | @universal _ clock _ dateSpelled =>
      have letter : Trimmed ['Z'] := .of_solid nofun (List.forall_mem_singleton.mpr rfl)
      exact dateSpelled.trimmed.between letter ('T' :: clock)
  | joined dateSpelled timeSpelled => exact dateSpelled.trimmed.between timeSpelled.trimmed ['T']
  | spaced dateSpelled timeSpelled => exact dateSpelled.trimmed.between timeSpelled.trimmed [' ']
  | @shifted _ clock _ _ _ dateSpelled _ offsetSpelled =>
      exact dateSpelled.trimmed.between offsetSpelled.trimmed ('T' :: clock)
  | midnight dateSpelled => exact dateSpelled.trimmed

end Calendar

-----------------------------------------------------------------------------------------
-- Tokens
-----------------------------------------------------------------------------------------

namespace Kind

open Text Calendar

variable {raw : String} {date : Date} {nullable : Bool}

theorem convert_instant_eq_ok_iff {instant : Instant}
    : Kind.instant.convert nullable (some raw) = .ok (.instant instant)
      ↔ instantOfText? (trim raw.toList) = some instant := by
  simp [convert_some_eq_ok, valueOfText?]

theorem convert_date_eq_ok_iff
    : Kind.date.convert nullable (some raw) = .ok (.date date) ↔ date? (trim raw.toList) = some date := by
  simp [convert_some_eq_ok, valueOfText?]

theorem convert_instant_of_moment {text : List Char} {seconds : ℚ} {shift : Int}
    (framed : Framed raw.toList text) (spelled : Moment date text seconds shift)
    : Kind.instant.convert nullable (some raw)
      = .ok (.instant ⟨⌊(date.dayNumber * 86400 + seconds) * 1000⌋ - shift * 1000⟩) := by
  rw [convert_instant_eq_ok_iff, spelled.trimmed.trim_of_framed framed]
  exact instantOfText?_moment spelled

/-- A date is also a moment, the one that begins it. -/
theorem convert_instant_of_date (denotes : Kind.date.convert nullable (some raw) = .ok (.date date))
    : Kind.instant.convert nullable (some raw)
      = .ok (.instant ⟨date.dayNumber * 86400 * 1000⟩) := by
  rw [convert_date_eq_ok_iff] at denotes
  rw [convert_instant_eq_ok_iff, instantOfText?_of_date denotes, Instant.ofDateTime]
  simp

/-- Moments that begin dates are in the order of the dates. -/
theorem compare_of_dates {left right : String} {first second : Date} {start finish : Instant}
    (leftDate : Kind.date.convert nullable (some left) = .ok (.date first))
    (rightDate : Kind.date.convert nullable (some right) = .ok (.date second))
    (leftInstant : Kind.instant.convert nullable (some left) = .ok (.instant start))
    (rightInstant : Kind.instant.convert nullable (some right) = .ok (.instant finish))
    : start.compare finish = first.compare second := by
  rw [convert_instant_of_date leftDate] at leftInstant
  rw [convert_instant_of_date rightDate] at rightInstant
  cases leftInstant
  cases rightInstant
  rw [← Date.compare_dayNumber]
  simp only [Instant.compare]
  rcases Int.lt_trichotomy first.dayNumber second.dayNumber with before | same | after
  · rw [Int.compare_eq_lt.mpr before, Int.compare_eq_lt.mpr (by omega)]
  · rw [same, Int.compare_eq_eq.mpr rfl, Int.compare_eq_eq.mpr rfl]
  · rw [Int.compare_eq_gt.mpr after, Int.compare_eq_gt.mpr (by omega)]

theorem convert_eq_error_of_missing {text rest : List Char} {year : Int} {month day : Nat}
    (framed : Framed raw.toList (text ++ rest)) (spelled : LooseDate text year month day)
    (stops : ∀ character ∈ rest.head?, character.isDigit = false)
    (missing : ∀ date : Date, ¬ (date.year = year ∧ date.month = month ∧ date.day = day))
    : Kind.instant.convert nullable (some raw) = .error (.unconvertible (some raw) .instant)
      ∧ Kind.date.convert nullable (some raw) = .error (.unconvertible (some raw) .date) := by
  obtain ⟨left, ⟨cut, rfl⟩, trimmed⟩ := spelled.trimmed.trim_append rest
  have leftStops : ∀ character ∈ left.head?, character.isDigit = false :=
    fun character first => stops character (List.mem_head?_append_of_mem_head? first)
  obtain ⟨noDate, noInstant⟩ := eq_none_of_missing spelled leftStops missing
  rw [← trimmed, ← trim_of_framed framed] at noDate noInstant
  constructor
  · exact convert_some_eq_error.mpr ⟨by rw [valueOfText?, noInstant, Option.map_none], rfl⟩
  · exact convert_some_eq_error.mpr ⟨by rw [valueOfText?, noDate, Option.map_none], rfl⟩

/-- The ways to spell a moment are all read as the moment in universal time, in milliseconds rounded down, and
white space around them is ignored. A token of a date is one of the moment that begins it, so dates are in the
order of these moments. A token that starts with a date that there is not denotes neither a moment nor a
date. -/
theorem convert_instant (nullable : Bool)
    : (∀ date : Date, ∃ days, Date.epoch.Apart days date
          ∧ (∀ {raw : String} {text : List Char} {seconds : ℚ} {shift : Int},
              Framed raw.toList text
              → Moment date text seconds shift
              → Kind.instant.convert nullable (some raw)
                = .ok (.instant ⟨⌊(days * 86400 + seconds) * 1000⌋ - shift * 1000⟩))
          ∧ ∀ {raw : String},
              Kind.date.convert nullable (some raw) = .ok (.date date)
              → Kind.instant.convert nullable (some raw) = .ok (.instant ⟨days * 86400 * 1000⟩))
      ∧ (∀ {left right : String} {first second : Date} {start finish : Instant},
          Kind.date.convert nullable (some left) = .ok (.date first)
          → Kind.date.convert nullable (some right) = .ok (.date second)
          → Kind.instant.convert nullable (some left) = .ok (.instant start)
          → Kind.instant.convert nullable (some right) = .ok (.instant finish)
          → start.compare finish = first.compare second)
      ∧ ∀ {raw : String} {text rest : List Char} {year : Int} {month day : Nat},
          Framed raw.toList (text ++ rest)
          → LooseDate text year month day
          → (∀ character ∈ rest.head?, character.isDigit = false)
          → (∀ date : Date, ¬ (date.year = year ∧ date.month = month ∧ date.day = day))
          → Kind.instant.convert nullable (some raw) = .error (.unconvertible (some raw) .instant)
            ∧ Kind.date.convert nullable (some raw) = .error (.unconvertible (some raw) .date) := by
  refine ⟨fun date => ?_, compare_of_dates, convert_eq_error_of_missing⟩
  exact ⟨date.dayNumber, date.epoch_apart, convert_instant_of_moment, convert_instant_of_date⟩

/-- An hour into 1970 by clocks an hour ahead is still half a millisecond short of it, and 1900 had no leap
day. -/
theorem convert_instant_yearEnds
    : Kind.instant.convert false (some "\t1970-01-01T00:59:59.9995+01:00 ") = .ok (.instant ⟨-1⟩)
      ∧ Kind.instant.convert false (some "1969-12-31") = .ok (.instant ⟨-86400000⟩)
      ∧ Kind.instant.convert false (some "2000-2-29") = .ok (.instant ⟨951782400000⟩)
      ∧ Instant.compare ⟨-86400000⟩ ⟨951782400000⟩ = .lt
      ∧ Kind.instant.convert false (some "1900-02-29T10:00:00Z")
        = .error (.unconvertible (some "1900-02-29T10:00:00Z") .instant) := by
  obtain ⟨denotes, ordered, missing⟩ := convert_instant false
  have numeral {width : Nat} {text : List Char} {count : Nat} (read : natural? text = some count)
      (full : text.length = width)
      : FixedNumeral width text count :=
    ⟨natural?_eq_some_iff.mp read, full⟩
  have year : FixedNumeral 4 ['1', '9', '7', '0'] 1970 := numeral rfl rfl
  have one : FixedNumeral 2 ['0', '1'] 1 := numeral rfl rfl
  have zero : FixedNumeral 2 ['0', '0'] 0 := numeral rfl rfl
  have fiftyNine : FixedNumeral 2 ['5', '9'] 59 := numeral rfl rfl
  have decimals : Decimals ['.', '9', '9', '9', '5'] ((9995 : Nat) / 10 ^ 4) :=
    .point (natural?_eq_some_iff.mp rfl)
  have spelled := @Moment.shifted .epoch _ _ _ _ _ (.hyphenated year one one)
    (.clock zero fiftyNine fiftyNine decimals (by decide) (by decide) (by decide))
    (.ahead one zero (by decide) (by decide))
  have start : Date.epoch.dayNumber = 0 := by decide
  have begins {raw : String} {date : Date} (isDate : Kind.date.convert false (some raw) = .ok (.date date))
      : Kind.instant.convert false (some raw) = .ok (.instant ⟨date.dayNumber * 86400 * 1000⟩) := by
    obtain ⟨days, apart, -, midnight⟩ := denotes date
    have count := apart.dayNumber_eq
    rw [start, Int.zero_add] at count
    rw [count]
    exact midnight isDate
  have lastDay : Kind.date.convert false (some "1969-12-31") = .ok (.date ⟨1969, 12, 31, by decide⟩) :=
    rfl
  have leapDay : Kind.date.convert false (some "2000-2-29") = .ok (.date ⟨2000, 2, 29, by decide⟩) :=
    rfl
  have lastInstant := begins lastDay
  have leapInstant := begins leapDay
  refine ⟨?_, lastInstant, leapInstant, ordered lastDay leapDay lastInstant leapInstant, ?_⟩
  · have framed
        : Framed "\t1970-01-01T00:59:59.9995+01:00 ".toList "1970-01-01T00:59:59.9995+01:00".toList :=
      ⟨['\t'], [' '], rfl, List.forall_mem_singleton.mpr rfl, List.forall_mem_singleton.mpr rfl⟩
    obtain ⟨days, apart, moment, -⟩ := denotes .epoch
    have count := apart.dayNumber_eq
    have floor
        : ⌊(((0 : Int) * 86400
            + ((0 : Nat) * 3600 + (59 : Nat) * 60 + (59 : Nat) + (9995 : Nat) / 10 ^ 4)) * 1000 : ℚ)⌋
          = 3599999 := by
      rw [Int.floor_eq_iff]
      norm_num
    obtain rfl : days = 0 := by omega
    rw [moment framed spelled, floor]
    rfl
  · have century : LooseDate "1900-02-29".toList 1900 2 29 :=
      .hyphenated (.plain (numeral rfl rfl : FixedNumeral 4 ['1', '9', '0', '0'] 1900).toNumeral (by decide))
        (.bare (numeral rfl rfl : FixedNumeral 2 ['0', '2'] 2).toNumeral (by decide))
        (.bare (numeral rfl rfl : FixedNumeral 2 ['2', '9'] 29).toNumeral (by decide))
    have framed : Framed "1900-02-29T10:00:00Z".toList ("1900-02-29".toList ++ "T10:00:00Z".toList) :=
      ⟨[], [], rfl, nofun, nofun⟩
    have stops : ∀ character ∈ "T10:00:00Z".toList.head?, character.isDigit = false := by
      rintro _ ⟨⟩
      rfl
    refine (missing framed century stops ?_).1
    rintro date ⟨year, month, day⟩
    have valid := date.isValid
    rw [year, month, day] at valid
    exact absurd valid (by decide)

end Kind

end TypedQuery
