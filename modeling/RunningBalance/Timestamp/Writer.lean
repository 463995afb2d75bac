import RunningBalance.Instant
import RunningBalance.Decimal

/-!
# Writing timestamps

An instant is written in UTC. `write` gives the shortest of 0, 3, 6 or 9 fraction digits that is
exact, `writeMillis` always three, cutting off what is finer.
-/

set_option autoImplicit false
set_option relaxedAutoImplicit false

namespace RunningBalance.Timestamp

/-- A year of four digits; outside 0 to 9999 a sign and at least four digits. -/
def writeYear (year : Int) : List Char :=
  if 0 ≤ year ∧ year ≤ 9999 then Decimal.padded 4 year.natAbs
  else (if year < 0 then '-' else '+') :: Decimal.padded 4 year.natAbs

def writeDate (date : Date) : List Char :=
  writeYear date.year ++ '-' :: Decimal.padded 2 date.month ++ '-' :: Decimal.padded 2 date.day

/-- The time of day to the second; a leap second is second 60. -/
def writeClock (instant : Instant) : List Char :=
  Decimal.padded 2 (instant.secondOfDay / 3600) ++
    ':' :: Decimal.padded 2 (instant.secondOfDay / 60 % 60) ++
    ':' :: Decimal.padded 2 (instant.secondOfDay % 60 + instant.nanos / Instant.nanosPerSecond)

/-- The fewest groups of three digits that write a fraction of a second exactly. -/
def writeFraction (nanos : Nat) : List Char :=
  if nanos = 0 then []
  else if nanos % 1000000 = 0 then '.' :: Decimal.padded 3 (nanos / 1000000)
  else if nanos % 1000 = 0 then '.' :: Decimal.padded 6 (nanos / 1000)
  else '.' :: Decimal.padded 9 nanos

def writeWith (fraction : List Char) (instant : Instant) : String :=
  String.ofList
    (writeDate instant.date ++ 'T' :: writeClock instant ++ fraction ++ ['Z'])

def write (instant : Instant) : String :=
  writeWith (writeFraction instant.subsecond) instant

def writeMillis (instant : Instant) : String :=
  writeWith ('.' :: Decimal.padded 3 (instant.subsecond / 1000000)) instant

end RunningBalance.Timestamp
