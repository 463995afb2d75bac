import RunningBalance.Json.Basic
import RunningBalance.Decimal
import RunningBalance.Text.Hex

/-!
# Printing JSON

A value is printed on one line without blanks, or spread over lines with two more spaces at each
depth. Strings keep every character but the quote, the backslash and the controls below the space.
-/

set_option autoImplicit false
set_option relaxedAutoImplicit false

namespace RunningBalance.Json

/-- One character of a string. -/
def printChar (c : Char) : List Char :=
  if c = '"' then ['\\', '"']
  else if c = '\\' then ['\\', '\\']
  else if c.toNat = 0x8 then ['\\', 'b']
  else if c.toNat = 0x9 then ['\\', 't']
  else if c.toNat = 0xA then ['\\', 'n']
  else if c.toNat = 0xC then ['\\', 'f']
  else if c.toNat = 0xD then ['\\', 'r']
  else if c.toNat < 0x20 then '\\' :: 'u' :: Text.hexDigits 4 c.toNat
  else [c]

def printString (value : String) : List Char :=
  '"' :: value.toList.flatMap printChar ++ ['"']

/-- The start of a line at a depth, where lines are used. -/
def lineStart (spread : Bool) (depth : Nat) : List Char :=
  if spread then '\n' :: List.replicate (2 * depth) ' ' else []

/-- What stands between a key and its value. -/
def keyEnd (spread : Bool) : List Char :=
  if spread then [':', ' '] else [':']

mutual

def print (spread : Bool) (depth : Nat) : Json → List Char
  | .null => ['n', 'u', 'l', 'l']
  | .bool true => ['t', 'r', 'u', 'e']
  | .bool false => ['f', 'a', 'l', 's', 'e']
  | .integer value => Decimal.ofInt value
  | .decimal negative mantissa exponent =>
    (if negative then ['-'] else []) ++ Decimal.ofNat mantissa ++ 'e' :: Decimal.ofInt exponent
  | .string value => printString value
  | .array [] => ['[', ']']
  | .array (item :: items) =>
    '[' :: lineStart spread (depth + 1) ++ print spread (depth + 1) item ++
      printItems spread (depth + 1) items ++ lineStart spread depth ++ [']']
  | .object [] => ['\x7b', '\x7d']
  | .object ((key, value) :: members) =>
    '\x7b' :: lineStart spread (depth + 1) ++ printString key ++ keyEnd spread ++
      print spread (depth + 1) value ++ printMembers spread (depth + 1) members ++
      lineStart spread depth ++ ['\x7d']

/-- The items after the first. -/
def printItems (spread : Bool) (depth : Nat) : List Json → List Char
  | [] => []
  | item :: items =>
    ',' :: lineStart spread depth ++ print spread depth item ++ printItems spread depth items

/-- The members after the first. -/
def printMembers (spread : Bool) (depth : Nat) : List (String × Json) → List Char
  | [] => []
  | (key, value) :: members =>
    ',' :: lineStart spread depth ++ printString key ++ keyEnd spread ++
      print spread depth value ++ printMembers spread depth members

end

/-- The value on one line. -/
def compact (value : Json) : String :=
  String.ofList (print false 0 value)

/-- The value spread over lines. -/
def pretty (value : Json) : String :=
  String.ofList (print true 0 value)

end RunningBalance.Json
