/-!
# The proleptic Gregorian calendar

Every day has a number, counted from 1970-01-01 in both directions. `Date.dayNumber` computes it and
`Date.ofDayNumber` reads it back, over all years.
-/

set_option autoImplicit false
set_option relaxedAutoImplicit false

namespace RunningBalance

/-- A year, a month from 1 and a day of the month from 1. -/
structure Date where
  year : Int
  month : Nat
  day : Nat
  deriving DecidableEq, Repr

namespace Date

def isLeapYear (year : Int) : Bool :=
  year % 4 = 0 && (year % 100 ≠ 0 || year % 400 = 0)

/-- The lengths of the twelve months. -/
def monthLengths (year : Int) : List Nat :=
  [31, if isLeapYear year then 29 else 28, 31, 30, 31, 30, 31, 31, 30, 31, 30, 31]

/-- The days from the start of year 0 to the start of a year; negative before year 0. -/
def daysBeforeYear (year : Int) : Int :=
  365 * year + (year + 3) / 4 - (year + 99) / 100 + (year + 399) / 400

/-- The days from the start of a year to the start of a month. -/
def daysBeforeMonth (year : Int) (month : Nat) : Nat :=
  ((monthLengths year).take (month - 1)).foldr (· + ·) 0

/-- The days from the start of year 0 to 1970-01-01. -/
def daysBeforeEpoch : Int :=
  719528

/-- Whether the calendar has such a day. -/
def exists? (date : Date) : Bool :=
  1 ≤ date.month && 1 ≤ date.day &&
    match (monthLengths date.year)[date.month - 1]? with
    | some length => date.day ≤ length
    | none => false

/-- The days from 1970-01-01 to a date. -/
def dayNumber (date : Date) : Int :=
  daysBeforeYear date.year + daysBeforeMonth date.year date.month + (date.day - 1 : Nat) -
    daysBeforeEpoch

/-- The year that holds a day counted from the start of year 0: the guess by the mean length of a
year, 146097 days in 400 years, is off by at most one. -/
def yearOfDay (day : Int) : Int :=
  let guess := day * 400 / 146097
  if day < daysBeforeYear guess then guess - 1
  else if daysBeforeYear (guess + 1) ≤ day then guess + 1
  else guess

/-- How many of the given months pass before a day of the year, and the days left after them. -/
def splitMonths : List Nat → Nat → Nat × Nat
  | [], day => (0, day)
  | length :: later, day =>
    if day < length then (0, day)
    else
      let (months, rest) := splitMonths later (day - length)
      (months + 1, rest)

/-- The date so many days after 1970-01-01. -/
def ofDayNumber (number : Int) : Date :=
  let day := number + daysBeforeEpoch
  let year := yearOfDay day
  let (months, rest) := splitMonths (monthLengths year) (day - daysBeforeYear year).toNat
  { year, month := months + 1, day := rest + 1 }

end Date

end RunningBalance
