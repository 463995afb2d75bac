import RunningBalance.Instant

/-!
# Schedules

A schedule has a field for each of second, minute, hour, day of the month, month, day of the week
and year, and fires in every second whose parts its fields all allow.
-/

set_option autoImplicit false
set_option relaxedAutoImplicit false

namespace RunningBalance

/-- The values that each field allows. -/
structure Schedule where
  seconds : List Nat
  minutes : List Nat
  hours : List Nat
  days : List Nat
  months : List Nat
  /-- Days of the week, Sunday being 1. -/
  weekdays : List Nat
  years : List Nat
  deriving DecidableEq, Repr

namespace Schedule

/-- The day of the week of an instant, in UTC; 1970-01-01 was a Thursday. -/
def weekday (instant : Instant) : Nat :=
  ((instant.seconds / Instant.secondsPerDay + 4) % 7).toNat + 1

/-- Whether the schedule fires in the second of an instant, in UTC. -/
def fires (schedule : Schedule) (instant : Instant) : Bool :=
  let date := instant.date
  let second := instant.secondOfDay
  schedule.years.any (fun year ↦ date.year = year) && schedule.months.contains date.month &&
    schedule.days.contains date.day && schedule.weekdays.contains (weekday instant) &&
    schedule.hours.contains (second / 3600) && schedule.minutes.contains (second / 60 % 60) &&
    schedule.seconds.contains (second % 60)

end Schedule

end RunningBalance
