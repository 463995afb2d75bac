import RunningBalance.Timestamp.Layout

/-!
# Reading timestamps

The layouts of ISO 8601 that are understood: the strict profile of RFC 3339, then extended and basic
date-times with an offset, date-times in UTC with or without a final Z, and bare dates, which denote
their midnight in UTC. `read?` takes the first layout that a text without the blanks around it
matches as a whole.
-/

set_option autoImplicit false
set_option relaxedAutoImplicit false

namespace RunningBalance.Timestamp

/-- A spelling of timestamps. -/
structure Layout where
  items : List Item
  /-- Whether a letter Z may follow. -/
  zulu : Bool := false
  deriving DecidableEq, Repr

/-- The text without one letter Z at its end. -/
def dropZulu (text : List Char) : List Char :=
  match text.reverse with
  | 'Z' :: rest => rest.reverse
  | 'z' :: rest => rest.reverse
  | _ => text

/-- The instant that a text denotes in a layout, which must match to its end. -/
def Layout.read? (layout : Layout) (text : List Char) : Option Instant :=
  match readItems? layout.items {} (if layout.zulu then dropZulu text else text) with
  | some (parts, []) => parts.instant?
  | _ => none

def extendedDate : List Item :=
  [.number .year, .oneOf ['-'], .number .month, .oneOf ['-'], .number .day]

def basicDate : List Item :=
  [.number .year, .number .month, .number .day]

def extendedMinute : List Item :=
  [.number .hour, .oneOf [':'], .number .minute]

def extendedSecond : List Item :=
  extendedMinute ++ [.oneOf [':'], .number .second, .fraction]

def basicMinute : List Item :=
  [.number .hour, .number .minute]

def basicSecond : List Item :=
  basicMinute ++ [.number .second, .fraction]

/-- The profile of RFC 3339, in which every field has its full width. -/
def strict : Layout where
  items :=
    [.digits .year 4, .oneOf ['-'], .digits .month 2, .oneOf ['-'], .digits .day 2,
      .oneOf ['T', 't', ' '], .digits .hour 2, .oneOf [':'], .digits .minute 2, .oneOf [':'],
      .digits .second 2, .fraction, .zone]

/-- The layouts that end in an offset. -/
def offsetLayouts : List Layout :=
  [{ items := extendedDate ++ .oneOf ['T'] :: extendedSecond ++ [.offset] },
    { items := extendedDate ++ .oneOf ['T'] :: extendedMinute ++ [.offset] },
    { items := basicDate ++ .oneOf ['T'] :: basicSecond ++ [.offset] },
    { items := basicDate ++ .oneOf ['T'] :: basicMinute ++ [.offset] }]

/-- The layouts of date-times in UTC. -/
def zonelessLayouts : List Layout :=
  [{ items := extendedDate ++ .oneOf ['T'] :: extendedSecond, zulu := true },
    { items := extendedDate ++ .blanks :: extendedSecond, zulu := true },
    { items := extendedDate ++ .oneOf ['T'] :: extendedMinute, zulu := true },
    { items := extendedDate ++ .blanks :: extendedMinute, zulu := true },
    { items := basicDate ++ .oneOf ['T'] :: basicSecond, zulu := true },
    { items := basicDate ++ .oneOf ['T'] :: basicMinute, zulu := true }]

/-- The layouts of bare dates. -/
def dateLayouts : List Layout :=
  [{ items := extendedDate }, { items := basicDate }]

/-- All layouts, in the order in which they are tried. -/
def layouts : List Layout :=
  strict :: offsetLayouts ++ zonelessLayouts ++ dateLayouts

/-- The instant that a text denotes in the first layout that accepts it. -/
def read? (text : String) : Option Instant :=
  layouts.findSome? (·.read? (Text.trim text.toList))

end RunningBalance.Timestamp
