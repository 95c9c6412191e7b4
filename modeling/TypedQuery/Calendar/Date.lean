import TypedQuery.Text.Decimal

/-! Dates of the Gregorian calendar, extended in both directions to the years that dates may have,
and their number of days since the first of January 1970. -/

namespace TypedQuery

def isLeapYear (year : Int) : Bool :=
  year % 4 == 0 && (year % 100 != 0 || year % 400 == 0)

/-- The number of days of a month, months counted from one. -/
def daysInMonth (year : Int) (month : Nat) : Nat :=
  match month with
  | 2 => if isLeapYear year then 29 else 28
  | 4 | 6 | 9 | 11 => 30
  | _ => 31

/-- The day exists, in a year that dates may have. -/
def isCalendarDay (year : Int) (month day : Nat) : Bool :=
  decide (-262143 ≤ year ∧ year ≤ 262142 ∧ 1 ≤ month ∧ month ≤ 12 ∧ 1 ≤ day
    ∧ day ≤ daysInMonth year month)

structure Date where
  year : Int
  month : Nat
  day : Nat
  isValid : isCalendarDay year month day = true
deriving DecidableEq, Repr

namespace Date

def ofParts? (year : Int) (month day : Nat) : Option Date :=
  if isValid : isCalendarDay year month day = true then some ⟨year, month, day, isValid⟩ else none

def epoch : Date := ⟨1970, 1, 1, by decide⟩

/-- The days of all years from year one up to the given year, negative before year one. -/
def daysBeforeYear (year : Int) : Int :=
  let past := year - 1
  365 * past + past / 4 - past / 100 + past / 400

/-- The days of the months of a year before the given one. -/
def daysBeforeMonth (year : Int) (month : Nat) : Nat :=
  (List.range (month - 1)).foldl (fun days index => days + daysInMonth year (index + 1)) 0

def dayNumber (date : Date) : Int :=
  daysBeforeYear date.year + daysBeforeMonth date.year date.month + (date.day - 1) - 719162

/-- Dates are ordered by year, then by month, then by day. -/
def compare (left right : Date) : Ordering :=
  (Ord.compare left.year right.year).then
    ((Ord.compare left.month right.month).then (Ord.compare left.day right.day))

/-- The year in four digits, with a sign and at least four digits outside of the years zero to
9999; month and day in two digits. -/
def toText (date : Date) : String :=
  let year :=
    if 0 ≤ date.year ∧ date.year ≤ 9999 then Text.padded 4 date.year.toNat
    else (if date.year < 0 then "-" else "+") ++ Text.padded 4 date.year.natAbs
  year ++ "-" ++ Text.padded 2 date.month ++ "-" ++ Text.padded 2 date.day

end Date

end TypedQuery
