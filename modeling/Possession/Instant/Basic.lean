/-!
# Instants

Points in time to the nanosecond, and the calendar that names their days. Days are counted from the
first of January 1970 in the Gregorian calendar, extended to all years.
-/

namespace Possession

/-- A point in time: seconds since the start of 1970, and nanoseconds. Nanoseconds from a thousand
million on belong to a leap second. -/
structure Instant where
  seconds : Int
  nanos : Nat
  deriving DecidableEq, Repr

/-- A day of the calendar. -/
structure Date where
  year : Int
  month : Nat
  day : Nat
  deriving DecidableEq, Repr

namespace Date

def minYear : Int := -262143

def maxYear : Int := 262142

def inCalendar (year : Int) : Bool :=
  minYear ≤ year && year ≤ maxYear

/-- Whether a year has a day more. -/
def isLeapYear (year : Int) : Bool :=
  (year % 4 == 0 && year % 100 != 0) || year % 400 == 0

def monthLength (year : Int) (month : Nat) : Nat :=
  if month = 2 then if isLeapYear year then 29 else 28
  else if month = 4 ∨ month = 6 ∨ month = 9 ∨ month = 11 then 30
  else 31

/-- The days before a month in a year that begins with March; `index` zero is March. -/
def daysBeforeMonth (index : Nat) : Nat :=
  (153 * index + 2) / 5

/-- The number of a day. Years are counted from March, so that a leap day is the last of its year,
in cycles of four hundred. -/
def toDays (date : Date) : Int :=
  let year := if date.month ≤ 2 then date.year - 1 else date.year
  let index := (date.month + 9) % 12
  let cycle := year / 400
  let yearOfCycle := year % 400
  let dayOfYear : Int := daysBeforeMonth index + date.day - 1
  cycle * 146097 + yearOfCycle * 365 + yearOfCycle / 4 - yearOfCycle / 100 + dayOfYear - 719468

def ofDays (days : Int) : Date :=
  let shifted := days + 719468
  let cycle := shifted / 146097
  let day := (shifted % 146097).toNat
  let yearOfCycle := (day - day / 1460 + day / 36524 - day / 146096) / 365
  let dayOfYear := day - (365 * yearOfCycle + yearOfCycle / 4 - yearOfCycle / 100)
  let index := (5 * dayOfYear + 2) / 153
  let month := if index < 10 then index + 3 else index - 9
  let year := cycle * 400 + Int.ofNat yearOfCycle
  { year := if month ≤ 2 then year + 1 else year
    month
    day := dayOfYear - daysBeforeMonth index + 1 }

end Date

/-- A day and the time on it: hours, minutes and seconds. -/
structure Moment where
  date : Date
  hour : Nat
  minute : Nat
  second : Nat
  deriving DecidableEq, Repr

/-- The seconds of a day. -/
def secondsPerDay : Int := 86400

def Moment.toSeconds (moment : Moment) : Int :=
  moment.date.toDays * secondsPerDay +
    Int.ofNat (moment.hour * 3600 + moment.minute * 60 + moment.second)

def Moment.ofSeconds (seconds : Int) : Moment :=
  let rest := (seconds % secondsPerDay).toNat
  { date := Date.ofDays (seconds / secondsPerDay)
    hour := rest / 3600
    minute := rest / 60 % 60
    second := rest % 60 }

namespace Instant

def nanosPerSecond : Nat := 1000000000

/-- The instant of a number of seconds and nanoseconds, if it lies in the calendar. Only the last
second of a minute may be a leap second. -/
def ofTimestamp? (seconds : Int) (nanos : Nat) : Option Instant :=
  let isWhole := nanos < nanosPerSecond || (nanos < 2 * nanosPerSecond && seconds % 60 == 59)
  if isWhole && Date.inCalendar (Moment.ofSeconds seconds).date.year then some ⟨seconds, nanos⟩
  else none

end Instant

end Possession
