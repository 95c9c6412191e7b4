import TypedQuery.Calendar.Date

/-! Days counted along the calendar. Going from a date to the next one adds one to its number, through the
ends of months and of leap years, and every date is reached that way from every other. So the numbers of
dates are their distances in days, and dates are in the order of their numbers.
-/

namespace TypedQuery

namespace Date

variable {date next left right : Date} {year : Int} {month day : Nat}

-----------------------------------------------------------------------------------------
-- Days of years and months
-----------------------------------------------------------------------------------------

def daysInYear (year : Int) : Nat :=
  if isLeapYear year then 366 else 365

theorem daysBeforeYear_succ (year : Int)
    : daysBeforeYear (year + 1) = daysBeforeYear year + daysInYear year := by
  have leap : isLeapYear year = true ↔ year % 4 = 0 ∧ (year % 100 ≠ 0 ∨ year % 400 = 0) := by
    simp [isLeapYear]
  simp only [daysBeforeYear, daysInYear]
  split
  · next leaps =>
    have rule := leap.mp leaps
    omega
  · next common =>
    have rule := mt leap.mpr common
    omega

theorem daysBeforeYear_mono {earlier later : Int} (sorted : earlier ≤ later)
    : daysBeforeYear earlier ≤ daysBeforeYear later := by
  simp only [daysBeforeYear]
  omega

theorem one_le_daysInMonth (year : Int) (month : Nat) : 1 ≤ daysInMonth year month := by
  unfold daysInMonth
  split <;> try split
  all_goals decide

theorem daysBeforeMonth_succ (year : Int) (counted : 1 ≤ month)
    : daysBeforeMonth year (month + 1) = daysBeforeMonth year month + daysInMonth year month := by
  obtain ⟨before, rfl⟩ : ∃ before, month = before + 1 := ⟨month - 1, by omega⟩
  have split : List.range (before + 1 + 1 - 1) = List.range (before + 1 - 1) ++ [before] :=
    List.range_succ
  rw [daysBeforeMonth, split, List.foldl_append]
  rfl

theorem daysBeforeMonth_mono (year : Int) {earlier later : Nat} (counted : 1 ≤ earlier)
    (sorted : earlier ≤ later)
    : daysBeforeMonth year earlier ≤ daysBeforeMonth year later := by
  induction sorted with
  | refl => exact Nat.le_refl _
  | step sorted ih =>
      rw [daysBeforeMonth_succ year (Nat.le_trans counted sorted)]
      exact Nat.le_trans ih (Nat.le_add_right _ _)

theorem daysBeforeMonth_thirteen (year : Int) : daysBeforeMonth year 13 = daysInYear year := by
  unfold daysInYear
  cases leaps : isLeapYear year <;> simp [daysBeforeMonth, daysInMonth, leaps, List.range_succ]

-----------------------------------------------------------------------------------------
-- Dates in their year
-----------------------------------------------------------------------------------------

theorem ofParts?_eq_some_iff
    : ofParts? year month day = some date
      ↔ date.year = year ∧ date.month = month ∧ date.day = day := by
  unfold ofParts?
  split
  · next valid =>
    rw [Option.some.injEq]
    constructor
    · rintro rfl
      exact ⟨rfl, rfl, rfl⟩
    · rintro ⟨rfl, rfl, rfl⟩
      rfl
  · next invalid =>
    refine ⟨nofun, ?_⟩
    rintro ⟨rfl, rfl, rfl⟩
    exact absurd date.isValid invalid

theorem isValid_iff
    : isCalendarDay year month day = true
      ↔ -262143 ≤ year ∧ year ≤ 262142 ∧ 1 ≤ month ∧ month ≤ 12 ∧ 1 ≤ day
        ∧ day ≤ daysInMonth year month := by
  rw [isCalendarDay, decide_eq_true_eq]

theorem ofParts?_eq_none_iff
    : ofParts? year month day = none
      ↔ ¬ (-262143 ≤ year ∧ year ≤ 262142 ∧ 1 ≤ month ∧ month ≤ 12 ∧ 1 ≤ day
          ∧ day ≤ daysInMonth year month) := by
  rw [← isValid_iff]
  unfold ofParts?
  split <;> simp_all

/-- The number of days of the year before a date. -/
def dayOfYear (date : Date) : Nat :=
  daysBeforeMonth date.year date.month + (date.day - 1)

theorem dayNumber_eq (date : Date)
    : date.dayNumber = daysBeforeYear date.year + date.dayOfYear - 719162 := by
  obtain ⟨-, -, -, -, first, -⟩ := isValid_iff.mp date.isValid
  unfold dayNumber dayOfYear
  omega

/-- All days of a month come before the next month. -/
theorem dayOfYear_lt_of_lt (date : Date) {later : Nat} (before : date.month < later)
    : date.dayOfYear < daysBeforeMonth date.year later := by
  obtain ⟨-, -, counted, -, first, last⟩ := isValid_iff.mp date.isValid
  have month := daysBeforeMonth_succ date.year counted
  have months : daysBeforeMonth date.year (date.month + 1) ≤ daysBeforeMonth date.year later :=
    daysBeforeMonth_mono date.year (Nat.le_succ_of_le counted) before
  unfold dayOfYear
  omega

theorem dayOfYear_lt (date : Date) : date.dayOfYear < daysInYear date.year := by
  obtain ⟨-, -, -, counted, -, -⟩ := isValid_iff.mp date.isValid
  rw [← daysBeforeMonth_thirteen]
  exact date.dayOfYear_lt_of_lt (Nat.lt_succ_of_le counted)

-----------------------------------------------------------------------------------------
-- Dates in order
-----------------------------------------------------------------------------------------

/-- All days of a year come before the next year. -/
theorem dayNumber_lt_of_year_lt (before : left.year < right.year)
    : left.dayNumber < right.dayNumber := by
  have year := daysBeforeYear_succ left.year
  have years := daysBeforeYear_mono (Int.add_one_le_of_lt before)
  have within := left.dayOfYear_lt
  rw [dayNumber_eq, dayNumber_eq]
  omega

theorem dayNumber_lt_of_month_lt (sameYear : left.year = right.year)
    (before : left.month < right.month)
    : left.dayNumber < right.dayNumber := by
  have within := left.dayOfYear_lt_of_lt before
  rw [dayNumber_eq, dayNumber_eq, ← sameYear]
  have after : daysBeforeMonth left.year right.month ≤ right.dayOfYear := by
    rw [dayOfYear, sameYear]
    exact Nat.le_add_right _ _
  omega

theorem dayNumber_lt_of_day_lt (sameYear : left.year = right.year) (sameMonth : left.month = right.month)
    (before : left.day < right.day)
    : left.dayNumber < right.dayNumber := by
  unfold dayNumber
  rw [sameYear, sameMonth]
  omega

/-- Dates are in the order of their numbers. -/
theorem compare_dayNumber (left right : Date)
    : Ord.compare left.dayNumber right.dayNumber = left.compare right := by
  cases order : left.compare right with
  | lt =>
      simp only [compare, Ordering.then_eq_lt, Int.compare_eq_lt, Int.compare_eq_eq,
        Nat.compare_eq_lt, Nat.compare_eq_eq] at order
      rw [Int.compare_eq_lt]
      rcases order with earlier | ⟨sameYear, earlier | ⟨sameMonth, earlier⟩⟩
      · exact dayNumber_lt_of_year_lt earlier
      · exact dayNumber_lt_of_month_lt sameYear earlier
      · exact dayNumber_lt_of_day_lt sameYear sameMonth earlier
  | eq =>
      simp only [compare, Ordering.then_eq_eq, Int.compare_eq_eq, Nat.compare_eq_eq] at order
      obtain ⟨sameYear, sameMonth, sameDay⟩ := order
      rw [Int.compare_eq_eq, dayNumber, dayNumber, sameYear, sameMonth, sameDay]
  | gt =>
      simp only [compare, Ordering.then_eq_gt, Int.compare_eq_gt, Int.compare_eq_eq,
        Nat.compare_eq_gt, Nat.compare_eq_eq] at order
      rw [Int.compare_eq_gt]
      rcases order with later | ⟨sameYear, later | ⟨sameMonth, later⟩⟩
      · exact dayNumber_lt_of_year_lt later
      · exact dayNumber_lt_of_month_lt sameYear.symm later
      · exact dayNumber_lt_of_day_lt sameYear.symm sameMonth.symm later

/-- Each date has a number of its own. -/
theorem eq_of_dayNumber (same : left.dayNumber = right.dayNumber) : left = right := by
  have tied : left.compare right = .eq := by
    rw [← compare_dayNumber, Int.compare_eq_eq]
    exact same
  simp only [compare, Ordering.then_eq_eq, Int.compare_eq_eq, Nat.compare_eq_eq] at tied
  obtain ⟨sameYear, sameMonth, sameDay⟩ := tied
  cases left
  cases right
  cases sameYear
  cases sameMonth
  cases sameDay
  rfl

-----------------------------------------------------------------------------------------
-- From one date to the next
-----------------------------------------------------------------------------------------

/-- The date after another one: the next day of its month if there is one, else the first day of the next
month, else that of the next year. After the last date of all there is none. -/
def next? (date : Date) : Option Date :=
  ofParts? date.year date.month (date.day + 1)
  <|> ofParts? date.year (date.month + 1) 1
  <|> ofParts? (date.year + 1) 1 1

/-- The day after is in the same month, or the first of the next one after the last of a month, or the first
of January after the last of December. -/
theorem next?_cases (follows : date.next? = some next)
    : (next.year = date.year ∧ next.month = date.month ∧ next.day = date.day + 1)
      ∨ date.day = daysInMonth date.year date.month
        ∧ ((next.year = date.year ∧ next.month = date.month + 1 ∧ next.day = 1)
          ∨ date.month = 12 ∧ next.year = date.year + 1 ∧ next.month = 1 ∧ next.day = 1) := by
  obtain ⟨low, high, counted, months, first, last⟩ := isValid_iff.mp date.isValid
  simp only [next?, Option.orElse_eq_orElse, Option.orElse_eq_or, Option.or_eq_some_iff,
    ofParts?_eq_some_iff, ofParts?_eq_none_iff] at follows
  rcases follows with same | ⟨ended, later | ⟨december, later⟩⟩
  · exact .inl same
  · exact .inr ⟨by omega, .inl later⟩
  · refine .inr ⟨by omega, .inr ⟨?_, later⟩⟩
    have long := one_le_daysInMonth date.year (date.month + 1)
    omega

/-- The next date has the next number. -/
theorem dayNumber_next (follows : date.next? = some next)
    : next.dayNumber = date.dayNumber + 1 := by
  obtain ⟨-, -, counted, -, first, -⟩ := isValid_iff.mp date.isValid
  have month := daysBeforeMonth_succ date.year counted
  unfold dayNumber
  rcases next?_cases follows with
    ⟨year, months, day⟩ | ⟨ended, ⟨year, months, day⟩ | ⟨december, year, months, day⟩⟩
  · rw [year, months, day]
    omega
  · rw [year, months, day]
    omega
  · have years := daysBeforeYear_succ date.year
    have whole : daysBeforeMonth date.year (12 + 1) = daysInYear date.year :=
      daysBeforeMonth_thirteen date.year
    have start : daysBeforeMonth (date.year + 1) 1 = 0 := rfl
    rw [december] at month ended ⊢
    rw [year, months, day, start]
    omega

/-- A date with a later one has a next one: without it would be the last day of the last year. -/
theorem exists_next? {later : Date} (before : date.dayNumber < later.dayNumber)
    : ∃ next, date.next? = some next := by
  obtain ⟨low, high, counted, months, first, last⟩ := isValid_iff.mp date.isValid
  obtain ⟨-, laterHigh, -⟩ := isValid_iff.mp later.isValid
  cases follows : date.next? with
  | some next => exact ⟨next, rfl⟩
  | none =>
      simp only [next?, Option.orElse_eq_orElse, Option.orElse_eq_or, Option.or_eq_none_iff,
        ofParts?_eq_none_iff] at follows
      obtain ⟨noDay, noMonth, noYear⟩ := follows
      have long := one_le_daysInMonth date.year (date.month + 1)
      have longer := one_le_daysInMonth (date.year + 1) 1
      have december : date.month = 12 := by omega
      have lastDay : date.day = daysInMonth date.year 12 := by
        rw [december] at last noDay
        omega
      have lastYear : date.year = 262142 := by omega
      have yearEnds : date.dayOfYear + 1 = daysInYear date.year := by
        have whole : daysBeforeMonth date.year (12 + 1) = daysInYear date.year :=
          daysBeforeMonth_thirteen date.year
        rw [← whole, daysBeforeMonth_succ date.year (by decide), dayOfYear, december]
        omega
      rcases Int.lt_or_eq_of_le (lastYear ▸ laterHigh) with earlier | same
      · have passed := dayNumber_lt_of_year_lt earlier
        omega
      · have within := later.dayOfYear_lt
        rw [dayNumber_eq, dayNumber_eq, ← same] at before
        rw [← same] at yearEnds
        omega

/-- The last date is a number of days after the first one, counted one at a time along the calendar, or
before it if the number is negative. -/
inductive Apart (first : Date) : Int → Date → Prop
  | same : Apart first 0 first
  | later {days last next} (apart : Apart first days last) (follows : last.next? = some next)
    : Apart first (days + 1) next
  | earlier {days last before} (apart : Apart first days last) (follows : before.next? = some last)
    : Apart first (days - 1) before

/-- Days are counted by the numbers of dates. By induction on the way from one date to the other. -/
theorem Apart.dayNumber_eq {first last : Date} {days : Int} (apart : first.Apart days last)
    : last.dayNumber = first.dayNumber + days := by
  induction apart with
  | same => omega
  | later _ follows ih =>
      have step := dayNumber_next follows
      omega
  | earlier _ follows ih =>
      have step := dayNumber_next follows
      omega

/-- From the date before the first one there is one day more to go. By induction on the way from the first
date. -/
theorem Apart.from_before {before first last : Date} {days : Int} (apart : first.Apart days last)
    (follows : before.next? = some first)
    : before.Apart (days + 1) last := by
  induction apart with
  | same => exact .later .same follows
  | later _ further ih => exact .later ih further
  | @earlier days _ _ _ further ih =>
      have count : days - 1 + 1 = days + 1 - 1 := by omega
      rw [count]
      exact .earlier ih further

/-- Dates are as many days apart as their numbers. By induction on the number of days between them, the
earlier one of the two moving towards the later one. -/
theorem apart_iff {first last : Date} {days : Int}
    : first.Apart days last ↔ last.dayNumber = first.dayNumber + days := by
  refine ⟨Apart.dayNumber_eq, fun number => ?_⟩
  rcases Int.le_total 0 days with forward | backward
  · obtain ⟨count, rfl⟩ := Int.eq_ofNat_of_zero_le forward
    induction count generalizing first with
    | zero =>
        obtain rfl : last = first := eq_of_dayNumber (by omega)
        exact .same
    | succ count ih =>
        have before : first.dayNumber < last.dayNumber := by omega
        obtain ⟨second, follows⟩ := exists_next? before
        have step := dayNumber_next follows
        exact (ih (by omega) (by omega)).from_before follows
  · obtain ⟨count, rfl⟩ : ∃ count : Nat, days = -count := ⟨days.natAbs, by omega⟩
    induction count generalizing last with
    | zero =>
        obtain rfl : last = first := eq_of_dayNumber (by omega)
        exact .same
    | succ count ih =>
        have before : last.dayNumber < first.dayNumber := by omega
        obtain ⟨next, follows⟩ := exists_next? before
        have step := dayNumber_next follows
        have further : -((count + 1 : Nat) : Int) = -(count : Int) - 1 := by omega
        rw [further]
        exact .earlier (ih (by omega) (by omega)) follows

theorem epoch_apart (date : Date) : epoch.Apart date.dayNumber date := by
  have start : epoch.dayNumber = 0 := by decide
  rw [apart_iff, start, Int.zero_add]

end Date

end TypedQuery
