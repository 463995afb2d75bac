import RunningBalance.Calendar
import RunningBalance.Decimal

/-!
# Dates and times in TOML

A date, a time of day, or both, and then perhaps an offset. All parts have a fixed width, and the
day has to exist.
-/

set_option autoImplicit false
set_option relaxedAutoImplicit false

namespace RunningBalance.Toml.DateTime

/-- Two digits of a number up to a bound. -/
def isUpTo (bound : Nat) (tens ones : Char) : Bool :=
  match Decimal.natural? [tens, ones] with
  | some value => value ≤ bound
  | none => false

def isDate (text : List Char) : Bool :=
  match text with
  | [y₁, y₂, y₃, y₄, '-', m₁, m₂, '-', d₁, d₂] =>
    match Decimal.natural? [y₁, y₂, y₃, y₄], Decimal.natural? [m₁, m₂],
        Decimal.natural? [d₁, d₂] with
    | some year, some month, some day => Date.exists? { year, month, day }
    | _, _, _ => false
  | _ => false

/-- Nothing, or a point and at least one digit. -/
def isFraction : List Char → Bool
  | [] => true
  | '.' :: digits => (Decimal.natural? digits).isSome
  | _ => false

/-- A time of day to the second or finer; second 60 may be a leap second. -/
def isTime (text : List Char) : Bool :=
  match text with
  | h₁ :: h₂ :: ':' :: m₁ :: m₂ :: ':' :: s₁ :: s₂ :: fraction =>
    isUpTo 23 h₁ h₂ && isUpTo 59 m₁ m₂ && isUpTo 60 s₁ s₂ && isFraction fraction
  | _ => false

/-- Nothing, `Z`, or a sign with hours and minutes. -/
def isOffset (text : List Char) : Bool :=
  match text with
  | [] => true
  | ['Z'] => true
  | ['z'] => true
  | [sign, h₁, h₂, ':', m₁, m₂] =>
    (sign = '+' || sign = '-') && isUpTo 23 h₁ h₂ && isUpTo 59 m₁ m₂
  | _ => false

/-- Whether the character can belong to a time of day. -/
def inTime (c : Char) : Bool :=
  c.isDigit || c = ':' || c = '.'

/-- What may stand between a date and a time. -/
def isJoint (c : Char) : Bool :=
  c = 'T' || c = 't' || c = ' '

/-- Whether the text is a date, a time, or a date and a time with or without an offset. -/
def isDateTime (text : List Char) : Bool :=
  isTime text ||
    isDate (text.take 10) &&
      match text.drop 10 with
      | [] => true
      | joint :: time =>
        isJoint joint && isTime (time.takeWhile inTime) && isOffset (time.dropWhile inTime)

end RunningBalance.Toml.DateTime
