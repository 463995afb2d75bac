import RunningBalance.Decimal
import RunningBalance.Schedule
import RunningBalance.Text.Blank

/-!
# Reading schedules

The fields stand in the order of the structure, and the year may be left out. A field lists values,
ranges and steps, separated by commas; months and weekdays have names too. `Schedule.read?` accepts
a text only if every value it names lies within the bounds of its field.

Blanks may stand between fields and on both sides of a number or a name, also inside an item: a
field ends where no comma, hyphen or slash continues it.
-/

set_option autoImplicit false
set_option relaxedAutoImplicit false

namespace RunningBalance.Schedule

/-- A kind of field: the bounds of its values and their names, from the lowest value on. -/
structure Field where
  low : Nat
  high : Nat
  names : List (List String) := []
  /-- Whether a question mark stands for every value, as an asterisk does. -/
  anyDay : Bool := false

namespace Field

def second : Field := { low := 0, high := 59 }

def minute : Field := { low := 0, high := 59 }

def hour : Field := { low := 0, high := 23 }

def day : Field := { low := 1, high := 31, anyDay := true }

def month : Field where
  low := 1
  high := 12
  names :=
    [["jan", "january"], ["feb", "february"], ["mar", "march"], ["apr", "april"], ["may"],
      ["jun", "june"], ["jul", "july"], ["aug", "august"], ["sep", "september"],
      ["oct", "october"], ["nov", "november"], ["dec", "december"]]

def weekday : Field where
  low := 1
  high := 7
  names :=
    [["sun", "sunday"], ["mon", "monday"], ["tue", "tues", "tuesday"], ["wed", "wednesday"],
      ["thu", "thurs", "thursday"], ["fri", "friday"], ["sat", "saturday"]]
  anyDay := true

def year : Field := { low := 1970, high := 2100 }

/-- The values from one to another, both within the bounds. -/
def range? (field : Field) (first last : Nat) : Option (List Nat) :=
  if field.low ≤ first ∧ first ≤ last ∧ last ≤ field.high then
    some ((List.range (last - first + 1)).map (first + ·))
  else none

def all (field : Field) : List Nat :=
  (List.range (field.high - field.low + 1)).map (field.low + ·)

/-- The value that a name in either case stands for. -/
def ofName? (field : Field) (name : List Char) : Option Nat :=
  let name := String.ofList (name.map Char.toLower)
  (field.names.findIdx? fun names ↦ names.contains name).map (field.low + ·)

end Field

/-! ### Numbers and names -/

/-- Whether the character may stand between fields; line ends may. -/
def isBlank (c : Char) : Bool :=
  c = ' ' || c = '\t' || c = '\r' || c = '\n'

def dropBlanks (text : List Char) : List Char :=
  text.dropWhile isBlank

/-- The numbers in a schedule have 32 bits. -/
def valueLimit : Nat :=
  Nat.pow 2 32

/-- A number with the blanks around it, and what follows. -/
def readNumber? (text : List Char) : Option (Nat × List Char) := do
  let text := dropBlanks text
  let number ← Decimal.natural? (text.takeWhile Char.isDigit)
  guard (number < valueLimit)
  pure (number, dropBlanks (text.dropWhile Char.isDigit))

namespace Field

/-- The value of a name with the blanks around it, and what follows. -/
def readName? (field : Field) (text : List Char) : Option (Nat × List Char) := do
  let text := dropBlanks text
  let value ← field.ofName? (text.takeWhile Char.isAlpha)
  pure (value, dropBlanks (text.dropWhile Char.isAlpha))

end Field

/-! ### Fields -/

/-- Every so many of the values, the first included. -/
def stepped (step : Nat) (values : List Nat) : List Nat :=
  (values.zipIdx.filter fun (_, place) ↦ place % step = 0).map Prod.fst

/-- Those of the values that the step at the start of a text selects, all if there is none. -/
def readStep? (values : List Nat) : List Char → Option (List Nat × List Char)
  | '/' :: rest => do
    let (step, rest) ← readNumber? rest
    guard (0 < step)
    pure (stepped step values, rest)
  | rest => some (values, rest)

namespace Field

/-- The values of an item. A step may follow a mark for all values, a range, or a single number,
which then stands for the range from it on; a single name has none. -/
def readItem? (field : Field) (text : List Char) : Option (List Nat × List Char) :=
  match text with
  | '*' :: rest => readStep? field.all rest
  | '?' :: rest => if field.anyDay then readStep? field.all rest else none
  | _ =>
    match readNumber? text with
    | some (first, '-' :: rest) => do
      let (last, rest) ← readNumber? rest
      readStep? (← field.range? first last) rest
    | some (first, '/' :: rest) => do
      readStep? (← field.range? first field.high) ('/' :: rest)
    | some (value, rest) => (field.range? value value).map (·, rest)
    | none => do
      let (first, rest) ← field.readName? text
      match rest with
      | '-' :: rest =>
        let (last, rest) ← field.readName? rest
        readStep? (← field.range? first last) rest
      | rest => (field.range? first first).map (·, rest)

/-- The values of at most so many items. -/
def readItems? (field : Field) : Nat → List Char → Option (List Nat × List Char)
  | 0, _ => none
  | items + 1, text => do
    match ← field.readItem? text with
    | (values, ',' :: rest) =>
      let (more, rest) ← field.readItems? items rest
      pure (values ++ more, rest)
    | (values, rest) => pure (values, rest)

/-- The values of a field with the blanks around it, and what follows. An item takes a character, so
that there are no more items than characters. -/
def read? (field : Field) (text : List Char) : Option (List Nat × List Char) := do
  let (values, rest) ← field.readItems? text.length (dropBlanks text)
  pure (values, dropBlanks rest)

end Field

/-! ### Schedules -/

/-- Schedules that have a name. -/
def named : List (String × String) :=
  [("@yearly", "0 0 0 1 1 *"), ("@monthly", "0 0 0 1 * *"), ("@weekly", "0 0 0 * * 1"),
    ("@daily", "0 0 0 * * *"), ("@hourly", "0 0 * * * *")]

/-- The fields of a schedule that has a name, with or without blanks around it. -/
def spelled (text : String) : List Char :=
  let name := Text.dropTrailing isBlank (dropBlanks text.toList)
  ((named.lookup (String.ofList name)).getD text).toList

def read? (text : String) : Option Schedule := do
  let (seconds, rest) ← Field.second.read? (spelled text)
  let (minutes, rest) ← Field.minute.read? rest
  let (hours, rest) ← Field.hour.read? rest
  let (days, rest) ← Field.day.read? rest
  let (months, rest) ← Field.month.read? rest
  let (weekdays, rest) ← Field.weekday.read? rest
  let (years, rest) ← if rest.isEmpty then some (Field.year.all, rest) else Field.year.read? rest
  guard rest.isEmpty
  pure { seconds, minutes, hours, days, months, weekdays, years }

end RunningBalance.Schedule
