import TypedQuery.Calendar.Instant
import TypedQuery.Text.Blank
import TypedQuery.Text.Reader

/-! Dates and points in time read from text: dates and times with white space and short numbers
allowed, and times of fixed width with an offset from universal time. -/

namespace TypedQuery.Calendar

open Text Text.Reader

/-- A number of at most the given number of digits, after any white space. -/
def looseNumber (most : Nat) : Reader Nat := fun text =>
  (digitsUpTo most (trimStart text)).map (fun (digits, rest) => (ofDigits digits, rest))

/-- A number of exactly the given number of digits. -/
def fixedNumber (count : Nat) : Reader Nat := do
  let digits ← digitsUpTo count
  if digits.length = count then pure (ofDigits digits) else failure

/-- A year after any white space: any number of digits after a sign, else at most four. -/
def looseYear : Reader Int := fun text =>
  match trimStart text with
  | '-' :: rest =>
      (digitsUpTo rest.length rest).map (fun (digits, rest) => (-(ofDigits digits : Int), rest))
  | '+' :: rest =>
      (digitsUpTo rest.length rest).map (fun (digits, rest) => ((ofDigits digits : Int), rest))
  | rest => (digitsUpTo 4 rest).map (fun (digits, rest) => ((ofDigits digits : Int), rest))

structure DateParts where
  year : Int
  month : Nat
  day : Nat

structure TimeParts where
  hour : Nat
  minute : Nat
  second : Nat
  nanosecond : Nat

/-- Year, month and day with hyphens between them. -/
def looseDate : Reader DateParts := do
  let year ← looseYear
  character '-'
  let month ← looseNumber 2
  character '-'
  let day ← looseNumber 2
  pure ⟨year, month, day⟩

/-- An optional point and decimals of a second, in nanoseconds; decimals past the ninth are
ignored. -/
def fractionOfSecond : Reader Nat := fun text =>
  match text with
  | '.' :: rest =>
      (digitsUpTo 9 rest).map (fun (digits, rest) =>
        (ofDigits digits * Nat.pow 10 (9 - digits.length), rest.dropWhile Char.isDigit))
  | _ => some (0, text)

/-- Hours, minutes and seconds with colons between them, and an optional fraction. -/
def looseTime : Reader TimeParts := do
  let hour ← looseNumber 2
  character ':'
  let minute ← looseNumber 2
  character ':'
  let second ← looseNumber 2
  let nanosecond ← fractionOfSecond
  pure ⟨hour, minute, second, nanosecond⟩

/-- The instant of a date and a time of day in universal time. A sixtieth second lasts from the
end of the second before it. -/
def instant? (date : DateParts) (time : TimeParts) : Option Instant :=
  (Date.ofParts? date.year date.month date.day).bind (fun day =>
    if time.hour < 24 ∧ time.minute < 60 ∧ time.second ≤ 60 then
      let leap := if time.second = 60 then 1 else 0
      let seconds := time.hour * 3600 + time.minute * 60 + (time.second - leap)
      some (Instant.ofDateTime day seconds (leap * 1000000000 + time.nanosecond))
    else none)

def joinedDateTime : Reader (DateParts × TimeParts) := do
  let date ← looseDate
  character 'T'
  let time ← looseTime
  pure (date, time)

/-- A date and a time of day with any white space between them, or none. -/
def spacedDateTime : Reader (DateParts × TimeParts) := do
  let date ← looseDate
  modify trimStart
  let time ← looseTime
  pure (date, time)

/-- The offset from universal time in seconds: the letter Z, or a sign, hours and minutes. -/
def offset : Reader Int := fun text =>
  match text with
  | [] => none
  | sign :: rest =>
      if sign = 'Z' ∨ sign = 'z' then some (0, rest)
      else if sign = '+' ∨ sign = '-' ∨ sign = '\u2212' then
        let clock : Reader Int := do
          let hours ← fixedNumber 2
          character ':'
          let minutes ← fixedNumber 2
          if hours < 24 ∧ minutes < 60 then
            let seconds : Int := hours * 3600 + minutes * 60
            pure (if sign = '+' then seconds else -seconds)
          else failure
        clock rest
      else none

/-- A date and a time of day of fixed width with an offset from universal time. -/
def offsetDateTime : Reader (DateParts × TimeParts × Int) := do
  let year ← fixedNumber 4
  character '-'
  let month ← fixedNumber 2
  character '-'
  let day ← fixedNumber 2
  character 'T' <|> character 't' <|> character ' '
  let hour ← fixedNumber 2
  character ':'
  let minute ← fixedNumber 2
  character ':'
  let second ← fixedNumber 2
  let nanosecond ← fractionOfSecond
  let offset ← offset
  pure (⟨year, month, day⟩, ⟨hour, minute, second, nanosecond⟩, offset)

def date? (text : List Char) : Option Date :=
  (whole looseDate text).bind (fun parts => Date.ofParts? parts.year parts.month parts.day)

/-- The instant of a text with an offset from universal time. -/
def offsetInstant? (text : List Char) : Option Instant :=
  (whole offsetDateTime text).bind (fun (date, time, offset) =>
    (instant? date time).map (fun instant => instant.minusSeconds offset))

/-- The instant of a text without an offset, taken to be in universal time. -/
def localInstant? (reader : Reader (DateParts × TimeParts)) (text : List Char) : Option Instant :=
  (whole reader text).bind (fun (date, time) => instant? date time)

/-- The instant that a text denotes: with an offset, without one, or the start of a date. -/
def instantOfText? (text : List Char) : Option Instant :=
  offsetInstant? text
  <|> localInstant? joinedDateTime text
  <|> localInstant? spacedDateTime text
  <|> (date? text).map (fun date => Instant.ofDateTime date 0 0)

end TypedQuery.Calendar
