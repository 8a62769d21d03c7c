namespace Reduct.Calendar

/-- A date has a year, a month from one and a day from one. -/
structure Date where
  year : Nat
  month : Nat
  day : Nat
  deriving DecidableEq, Repr

/-- The date a number of days after the first of January 1970. Years are counted from March, so
that the day of a leap year comes last. -/
def dateOfDays (days : Nat) : Date :=
  let shifted := days + 719468
  let era := shifted / 146097
  let dayOfEra := shifted % 146097
  let yearOfEra := (dayOfEra - dayOfEra / 1460 + dayOfEra / 36524 - dayOfEra / 146096) / 365
  let dayOfYear := dayOfEra - (365 * yearOfEra + yearOfEra / 4 - yearOfEra / 100)
  let marchMonth := (5 * dayOfYear + 2) / 153
  let day := dayOfYear - (153 * marchMonth + 2) / 5 + 1
  let month := if marchMonth < 10 then marchMonth + 3 else marchMonth - 9
  let year := yearOfEra + era * 400 + if month ≤ 2 then 1 else 0
  ⟨year, month, day⟩

/-- A number with leading zeros up to a width. -/
def padded (width number : Nat) : String :=
  let digits := Nat.toDigits 10 number
  String.ofList (List.replicate (width - digits.length) '0' ++ digits)

/-- The date and the time of day of a number of milliseconds since the start of 1970. -/
def display (milliseconds : Nat) : String :=
  let seconds := milliseconds / 1000
  let date := dateOfDays (seconds / 86400)
  let inDay := seconds % 86400
  let dayText := s!"{padded 4 date.year}-{padded 2 date.month}-{padded 2 date.day}"
  let timeText := s!"{padded 2 (inDay / 3600)}:{padded 2 (inDay / 60 % 60)}:{padded 2 (inDay % 60)}"
  s!"{dayText}T{timeText}.{padded 3 (milliseconds % 1000)}Z"

end Reduct.Calendar
