/-!
# Moments

A moment of a calendar day and how it is written: the date, the time with the millionths of a second
unless there are none, and the distance from universal time, which is always zero.
-/

namespace Restack.Time

/-- A moment in universal time. -/
structure Moment where
  year : Int
  month : Int
  day : Int
  hour : Int
  minute : Int
  second : Int
  micros : Int
deriving DecidableEq, Repr

namespace Moment

/-- The part of a moment that does not exist. -/
inductive Flaw where
  | year (n : Int)
  | month
  | day
  | hour
  | minute
  | second
  | micros
deriving DecidableEq, Repr

/-- The wording of a flaw. -/
def Flaw.message : Flaw → String
  | .year n => "year " ++ toString n ++ " is out of range"
  | .month => "month must be in 1..12"
  | .day => "day is out of range for month"
  | .hour => "hour must be in 0..23"
  | .minute => "minute must be in 0..59"
  | .second => "second must be in 0..59"
  | .micros => "microsecond must be in 0..999999"

/-- Years with a day more. -/
def isLeap (year : Int) : Bool :=
  year % 4 == 0 && (year % 100 != 0 || year % 400 == 0)

/-- The number of days of a month. -/
def daysIn (year month : Int) : Int :=
  if month == 2 then (if isLeap year then 29 else 28)
  else if month == 4 || month == 6 || month == 9 || month == 11 then 30
  else 31

/-- Whether a number lies between two others. -/
def within (low high n : Int) : Bool :=
  low ≤ n && n ≤ high

/-- The moment, or the first part of it that does not exist. -/
def checked (m : Moment) : Except Flaw Moment :=
  if !within 1 9999 m.year then .error (.year m.year)
  else if !within 1 12 m.month then .error .month
  else if !within 1 (daysIn m.year m.month) m.day then .error .day
  else if !within 0 23 m.hour then .error .hour
  else if !within 0 59 m.minute then .error .minute
  else if !within 0 59 m.second then .error .second
  else if !within 0 999999 m.micros then .error .micros
  else .ok m

/-- A number in at least so many digits. -/
def padded (width : Nat) (n : Int) : String :=
  let digits := (toString n).toList
  String.ofList (List.replicate (width - digits.length) '0' ++ digits)

/-- How a moment is written. -/
def text (m : Moment) : String :=
  padded 4 m.year ++ "-" ++ padded 2 m.month ++ "-" ++ padded 2 m.day ++ "T" ++ padded 2 m.hour ++
    ":" ++ padded 2 m.minute ++ ":" ++ padded 2 m.second ++
    (if m.micros == 0 then "" else "." ++ padded 6 m.micros) ++ "+00:00"

/-- The date of a day that is counted from the first of March of the year zero: years begin in
March, so that the day more of a leap year is the last one. -/
def dateOfDay (day : Int) : Int × Int × Int :=
  let era := Int.fdiv day 146097
  let dayOfEra := day - era * 146097
  let yearOfEra :=
    (dayOfEra - dayOfEra / 1460 + dayOfEra / 36524 - dayOfEra / 146096) / 365
  let dayOfYear := dayOfEra - (365 * yearOfEra + yearOfEra / 4 - yearOfEra / 100)
  let shifted := (5 * dayOfYear + 2) / 153
  let month := if shifted < 10 then shifted + 3 else shifted - 9
  let year := yearOfEra + era * 400 + (if month ≤ 2 then 1 else 0)
  (year, month, dayOfYear - (153 * shifted + 2) / 5 + 1)

/-- The moment that lies some millionths of a second after the beginning of the year 1970. -/
def ofMicros (micros : Int) : Moment :=
  let seconds := Int.fdiv micros 1000000
  let days := Int.fdiv seconds 86400
  let rest := seconds - days * 86400
  let (year, month, day) := dateOfDay (days + 719468)
  ⟨year, month, day, rest / 3600, rest / 60 % 60, rest % 60, micros - seconds * 1000000⟩

end Moment

end Restack.Time
