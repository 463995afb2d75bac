import RunningBalance.Text.Unshown

/-!
# Quoted text

A text inside double quotes, on one line and without invisible characters: the quote, the backslash
and what has no sign of its own are written as escapes.
-/

set_option autoImplicit false
set_option relaxedAutoImplicit false

namespace RunningBalance.Text.Quoted

/-- One character between the quotes. -/
def encodeChar (c : Char) : List Char :=
  if c = '"' then ['\\', '"']
  else if c = '\\' then ['\\', '\\']
  else if c = '\n' then ['\\', 'n']
  else if c = '\r' then ['\\', 'r']
  else if c = '\t' then ['\\', 't']
  else if c.toNat = 0 then ['\\', '0']
  else if isUnshown c then ['\\', 'u', '\x7b'] ++ Nat.toDigits 16 c.toNat ++ ['\x7d']
  else [c]

def encode (text : List Char) : List Char :=
  '"' :: text.flatMap encodeChar ++ ['"']

end RunningBalance.Text.Quoted

namespace RunningBalance.Text

/-- The text in double quotes, with escapes. -/
def quoted (text : String) : String :=
  String.ofList (Quoted.encode text.toList)

end RunningBalance.Text
