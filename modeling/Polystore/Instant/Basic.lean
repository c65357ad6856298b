/-!
# Instants

Points in time of the proleptic Gregorian calendar, in coordinated universal
time.  The second that is inserted at the end of a minute is the 59th with a
fraction beyond one second.
-/

namespace Polystore

/-- Seconds since the start of 1970 and nanoseconds, which exceed a second in an
inserted second. -/
structure Instant where
  seconds : Int
  nanoseconds : Nat
deriving DecidableEq, Repr, Inhabited

namespace Instant

def lt (left right : Instant) : Bool :=
  left.seconds < right.seconds
    || (left.seconds == right.seconds && left.nanoseconds < right.nanoseconds)

def latest (left right : Instant) : Instant :=
  if lt left right then right else left

/-- The instant that lies the given number of seconds before. -/
def secondsBefore (now : Instant) (seconds : Int) : Instant :=
  { now with seconds := now.seconds - seconds }

def daysPerCycle : Int := 146097

/-- Days since the start of 1970.  Years are counted from March, so that a leap
day ends its year. -/
def dayNumber (year month day : Int) : Int :=
  let year := if month ≤ 2 then year - 1 else year
  let yearOfCycle := year % 400
  let monthFromMarch := (month + 9) % 12
  let dayOfYear := (153 * monthFromMarch + 2) / 5 + day - 1
  let dayOfCycle :=
    yearOfCycle * 365 + yearOfCycle / 4 - yearOfCycle / 100 + dayOfYear
  year / 400 * daysPerCycle + dayOfCycle - 719468

/-- Year, month and day of a day number. -/
def calendarDate (dayNumber : Int) : Int × Int × Int :=
  let days := dayNumber + 719468
  let dayOfCycle := days % daysPerCycle
  let yearOfCycle :=
    (dayOfCycle - dayOfCycle / 1460 + dayOfCycle / 36524 - dayOfCycle / 146096)
      / 365
  let dayOfYear :=
    dayOfCycle - (365 * yearOfCycle + yearOfCycle / 4 - yearOfCycle / 100)
  let monthFromMarch := (5 * dayOfYear + 2) / 153
  let day := dayOfYear - (153 * monthFromMarch + 2) / 5 + 1
  let month :=
    if monthFromMarch < 10 then monthFromMarch + 3 else monthFromMarch - 9
  let year := yearOfCycle + days / daysPerCycle * 400
  (if month ≤ 2 then year + 1 else year, month, day)

def isLeapYear (year : Int) : Bool :=
  year % 4 == 0 && (year % 100 != 0 || year % 400 == 0)

def daysInMonth (year month : Int) : Int :=
  if month == 2 then if isLeapYear year then 29 else 28
  else if month == 4 || month == 6 || month == 9 || month == 11 then 30
  else 31

/-- The first and the last year of the calendar. -/
def firstYear : Int := -262143

/-- The last year of the calendar. -/
def lastYear : Int := 262142

/-- The instant lies in the years of the calendar. -/
def inCalendar (instant : Instant) : Bool :=
  dayNumber firstYear 1 1 * 86400 ≤ instant.seconds
    && instant.seconds < (dayNumber lastYear 12 31 + 1) * 86400

end Instant

end Polystore
