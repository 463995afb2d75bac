import RunningBalance.Instant
import RunningBalance.Decimal
import RunningBalance.Text.Blank

/-!
# Layouts of timestamps

A layout says how a date, a time and an offset are spelled: a list of items, each of which consumes
the start of a text and adds to the numbers read so far. `readItem?` and `readItems?` read them,
and `Parts.instant?` finds the instant that the numbers denote, if the calendar has it.
-/

set_option autoImplicit false
set_option relaxedAutoImplicit false

namespace RunningBalance.Timestamp

/-- The numbers of a timestamp as they are written; what is not written is zero. The offset counts
seconds east of UTC. -/
structure Parts where
  year : Int := 0
  month : Nat := 0
  day : Nat := 0
  hour : Nat := 0
  minute : Nat := 0
  second : Nat := 0
  nanos : Nat := 0
  offset : Int := 0
  deriving DecidableEq, Repr

inductive Field
  | year
  | month
  | day
  | hour
  | minute
  | second
  deriving DecidableEq, Repr

inductive Item
  /-- A number after any blanks: one or two digits. A year has up to four, or any number of digits
  after a sign. -/
  | number (field : Field)
  /-- Exactly so many digits. -/
  | digits (field : Field) (width : Nat)
  /-- One of the given characters. -/
  | oneOf (choices : List Char)
  /-- Any number of blanks, none included. -/
  | blanks
  /-- Nothing, or a point and at least one digit; digits beyond the ninth are dropped. -/
  | fraction
  /-- Any blanks, a sign and two digits each of hours and minutes, between which blanks and colons
  may stand. -/
  | offset
  /-- The letter Z, or a sign and two digits each of hours and minutes with a colon between. -/
  | zone
  deriving DecidableEq, Repr

def Parts.set (parts : Parts) : Field → Int → Parts
  | .year, n => { parts with year := n }
  | .month, n => { parts with month := n.toNat }
  | .day, n => { parts with day := n.toNat }
  | .hour, n => { parts with hour := n.toNat }
  | .minute, n => { parts with minute := n.toNat }
  | .second, n => { parts with second := n.toNat }

/-- The digits at the start of a text, of which there must be one, and what follows them. -/
def leadingDigits? (text : List Char) : Option (List Char × List Char) :=
  match text.takeWhile Char.isDigit with
  | [] => none
  | digits => some (digits, text.dropWhile Char.isDigit)

/-- The digits at the start of a text, but no more than `most`, and what follows them. -/
def fewDigits? (most : Nat) (text : List Char) : Option (List Char × List Char) :=
  (leadingDigits? (text.take most)).map fun (digits, _) ↦ (digits, text.drop digits.length)

/-- The value of exactly `width` digits, and what follows them. -/
def fixedDigits? (width : Nat) (text : List Char) : Option (Nat × List Char) :=
  if (text.take width).length = width && (text.take width).all Char.isDigit then
    some (Decimal.value (text.take width), text.drop width)
  else none

/-- A number of a field, at the start of a text without blanks in front. -/
def readNumber? : Field → List Char → Option (Int × List Char)
  | .year, '-' :: text =>
    (leadingDigits? text).map fun (digits, rest) ↦ (-(Decimal.value digits : Int), rest)
  | .year, '+' :: text =>
    (leadingDigits? text).map fun (digits, rest) ↦ ((Decimal.value digits : Int), rest)
  | .year, text =>
    (fewDigits? 4 text).map fun (digits, rest) ↦ ((Decimal.value digits : Int), rest)
  | _, text =>
    (fewDigits? 2 text).map fun (digits, rest) ↦ ((Decimal.value digits : Int), rest)

/-- Nanoseconds from the digits of a fraction of a second. -/
def nanosOf (digits : List Char) : Nat :=
  Decimal.value ((digits.take 9).rightpad 9 '0')

/-- Whether the sign of an offset is negative, and what follows it. The minus sign may be the
hyphen or the mathematical one. -/
def readSign? : List Char → Option (Bool × List Char)
  | '+' :: rest => some (false, rest)
  | '-' :: rest => some (true, rest)
  | '\u2212' :: rest => some (true, rest)
  | _ => none

/-- The seconds of an offset whose hours and minutes stand apart as `separator?` says. -/
def readOffset? (separator? : List Char → Option (List Char)) (text : List Char) :
    Option (Int × List Char) := do
  let (negative, text) ← readSign? text
  let (hours, text) ← fixedDigits? 2 text
  let text ← separator? text
  let (minutes, text) ← fixedDigits? 2 text
  guard (minutes < 60)
  let seconds : Int := 3600 * hours + 60 * minutes
  pure (if negative then -seconds else seconds, text)

/-- What an item reads at the start of a text, and the rest of the text. -/
def readItem? (parts : Parts) (text : List Char) : Item → Option (Parts × List Char)
  | .number field =>
    (readNumber? field (Text.trimStart text)).map fun (n, rest) ↦ (parts.set field n, rest)
  | .digits field width =>
    (fixedDigits? width text).map fun (n, rest) ↦ (parts.set field n, rest)
  | .oneOf choices =>
    match text with
    | c :: rest => if choices.contains c then some (parts, rest) else none
    | [] => none
  | .blanks => some (parts, Text.trimStart text)
  | .fraction =>
    match text with
    | '.' :: rest =>
      (leadingDigits? rest).map fun (digits, rest) ↦ ({ parts with nanos := nanosOf digits }, rest)
    | _ => some (parts, text)
  | .offset =>
    (readOffset? (fun text ↦ some (text.dropWhile fun c ↦ c = ':' || Text.isBlank c))
      (Text.trimStart text)).map fun (offset, rest) ↦ ({ parts with offset }, rest)
  | .zone =>
    match text with
    | 'Z' :: rest => some (parts, rest)
    | 'z' :: rest => some (parts, rest)
    | _ =>
      (readOffset? (Text.after? [':']) text).map fun (offset, rest) ↦ ({ parts with offset }, rest)

/-- What a list of items reads, one after the other. -/
def readItems? : List Item → Parts → List Char → Option (Parts × List Char)
  | [], parts, text => some (parts, text)
  | item :: items, parts, text =>
    match readItem? parts text item with
    | some (parts, rest) => readItems? items parts rest
    | none => none

namespace Parts

def date (parts : Parts) : Date :=
  { year := parts.year, month := parts.month, day := parts.day }

/-- Whether the numbers name a day in a supported year, a time of day (a leap second may end any
minute) and an offset of less than a day. -/
def isProper (parts : Parts) : Bool :=
  Instant.firstYear ≤ parts.year && parts.year ≤ Instant.lastYear && parts.date.exists? &&
    parts.hour < 24 && parts.minute < 60 && parts.second ≤ 60 &&
    -Instant.secondsPerDay < parts.offset && parts.offset < Instant.secondsPerDay

/-- The seconds since 1970-01-01T00:00:00Z; second 60 counts as second 59. -/
def seconds (parts : Parts) : Int :=
  parts.date.dayNumber * Instant.secondsPerDay +
    (3600 * parts.hour + 60 * parts.minute + min parts.second 59 : Nat) - parts.offset

/-- The instant that the numbers denote, in a supported year also when written in UTC. -/
def instant? (parts : Parts) : Option Instant :=
  let instant : Instant :=
    { seconds := parts.seconds
      nanos := parts.nanos + if parts.second = 60 then Instant.nanosPerSecond else 0 }
  if parts.isProper && instant.isSupported then some instant else none

end Parts

end RunningBalance.Timestamp
