import TypedQuery.Calendar.Date

/-! Points in time, counted in milliseconds. -/

namespace TypedQuery

/-- A point in time, as milliseconds since the start of 1970 in universal time. -/
structure Instant where
  milliseconds : Int
deriving DecidableEq, Repr

namespace Instant

/-- Earlier instants come first. -/
def compare (left right : Instant) : Ordering :=
  Ord.compare left.milliseconds right.milliseconds

/-- The instant at a number of microseconds, cut down to the millisecond before it. -/
def ofMicroseconds (microseconds : Int) : Instant :=
  ⟨Int.fdiv microseconds 1000⟩

/-- The instant at a time of day on a date; an hour has minutes and seconds of any number. -/
def ofDateTime (date : Date) (seconds nanoseconds : Nat) : Instant :=
  ⟨(date.dayNumber * 86400 + seconds) * 1000 + (nanoseconds / 1000000 : Nat)⟩

def minusSeconds (instant : Instant) (seconds : Int) : Instant :=
  ⟨instant.milliseconds - seconds * 1000⟩

end Instant

end TypedQuery
