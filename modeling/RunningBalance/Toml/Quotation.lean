import RunningBalance.Text.Hex

/-!
# Strings in TOML

Four styles of quotation: in double quotes with escapes or in single quotes without them, and each
on one line or, between three quotes, on several. `readString?` reads a string of any style from the
start of a text.
-/

set_option autoImplicit false
set_option relaxedAutoImplicit false

namespace RunningBalance.Toml.Quotation

structure Style where
  quote : Char
  escapes : Bool
  /-- Whether three quotes enclose the string. -/
  long : Bool

def isBlank (c : Char) : Bool :=
  c = ' ' || c = '\t'

/-- Whether the character may stand as itself in a string or a comment: no control but the tab. -/
def isPlain (c : Char) : Bool :=
  c = '\t' || (0x20 ≤ c.toNat && c.toNat ≠ 0x7F)

/-- What a character stands for after a backslash. -/
def escaped? : Char → Option Char
  | 'b' => some '\x08'
  | 't' => some '\t'
  | 'n' => some '\n'
  | 'f' => some '\x0C'
  | 'r' => some '\r'
  | '"' => some '"'
  | '\\' => some '\\'
  | _ => none

/-- The character with a code point, unless that is half of a surrogate pair or out of range. -/
def ofCode? (code : Nat) : Option Char :=
  if h : code.isValidChar then some (Char.ofNatAux code h) else none

/-- Where in a string the next character stands. -/
inductive Place
  /-- In the text, after a number of quotes that belong to it or end the string. -/
  | text (quotes : Nat)
  | afterBackslash
  /-- Hexadecimal digits are still to come after those already read. -/
  | inHex (missing soFar : Nat)
  /-- In the blanks that a backslash at the end of a line removes. -/
  | gap (lineEnded : Bool)

/-- What one character does: it adds to the text, or the string has ended with it or before it. -/
inductive Move
  | on (text : List Char) (place : Place)
  | ended (text : List Char)
  | endedBefore (text : List Char)

namespace Style

/-- The quotes in a row that belong to the text, when the last three of them end the string. -/
def inner (style : Style) (quotes : Nat) : List Char :=
  List.replicate (quotes - 3) style.quote

/-- A character after a number of quotes. A long string may end with up to two quotes of its text.
-/
def inText (style : Style) (quotes : Nat) (c : Char) : Option Move :=
  let before := List.replicate quotes style.quote
  if c = style.quote then
    if !style.long then some (.ended [])
    else if quotes = 4 then some (.ended (style.inner 5))
    else some (.on [] (.text (quotes + 1)))
  else if 3 ≤ quotes then some (.endedBefore (style.inner quotes))
  else if style.escapes ∧ c = '\\' then some (.on before .afterBackslash)
  else if isPlain c ∨ style.long ∧ c = '\n' then some (.on (before ++ [c]) (.text 0))
  else none

/-- The character after a backslash. -/
def inEscape (style : Style) (c : Char) : Option Move :=
  if c = 'u' then some (.on [] (.inHex 3 0))
  else if c = 'U' then some (.on [] (.inHex 7 0))
  else
    match escaped? c with
    | some meant => some (.on [meant] (.text 0))
    | none =>
      if style.long ∧ c = '\n' then some (.on [] (.gap true))
      else if style.long ∧ isBlank c then some (.on [] (.gap false))
      else none

/-- A digit of an escape. -/
def inDigits (missing soFar : Nat) (c : Char) : Option Move := do
  let digit ← Text.hexDigit? c
  let code := 16 * soFar + digit
  match missing with
  | 0 => (ofCode? code).map fun meant ↦ .on [meant] (.text 0)
  | missing + 1 => pure (.on [] (.inHex missing code))

def move (style : Style) : Place → Char → Option Move
  | .text quotes, c => style.inText quotes c
  | .afterBackslash, c => style.inEscape c
  | .inHex missing soFar, c => inDigits missing soFar c
  | .gap lineEnded, c =>
    if c = '\n' then some (.on [] (.gap true))
    else if isBlank c then some (.on [] (.gap lineEnded))
    else if lineEnded then style.inText 0 c
    else none

/-- The string from a place in it to its end, and what follows it. -/
def scan (style : Style) : Place → List Char → Option (List Char × List Char)
  | .text quotes, [] =>
    if style.long ∧ 3 ≤ quotes then some (style.inner quotes, []) else none
  | _, [] => none
  | place, c :: rest =>
    match style.move place c with
    | some (.on text place) => (scan style place rest).map fun (more, rest) ↦ (text ++ more, rest)
    | some (.ended text) => some (text, rest)
    | some (.endedBefore text) => some (text, c :: rest)
    | none => none

end Style

/-- The text without a line end at its start. -/
def dropLineEnd : List Char → List Char
  | '\n' :: rest => rest
  | text => text

/-- A string on one line. -/
def readShort? : List Char → Option (String × List Char)
  | '"' :: rest => finish { quote := '"', escapes := true, long := false } rest
  | '\'' :: rest => finish { quote := '\'', escapes := false, long := false } rest
  | _ => none
where
  finish (style : Style) (text : List Char) : Option (String × List Char) :=
    (style.scan (.text 0) text).map fun (text, rest) ↦ (String.ofList text, rest)

/-- A string of any style. -/
def readString? : List Char → Option (String × List Char)
  | '"' :: '"' :: '"' :: rest =>
    readShort?.finish { quote := '"', escapes := true, long := true } (dropLineEnd rest)
  | '\'' :: '\'' :: '\'' :: rest =>
    readShort?.finish { quote := '\'', escapes := false, long := true } (dropLineEnd rest)
  | text => readShort? text

end RunningBalance.Toml.Quotation
