import RunningBalance.Display
import RunningBalance.Json.Printer
import RunningBalance.Text.Hex
import RunningBalance.Timestamp.Writer

/-!
# Log lines

What the program says about itself, as a line of text or as a JSON object on a line.
-/

set_option autoImplicit false
set_option relaxedAutoImplicit false

namespace RunningBalance.Log

inductive Level
  | info
  | error
  deriving DecidableEq, Repr

def Level.name : Level → String
  | .info => "INFO"
  | .error => "ERROR"

/-! ### Lines of text -/

/-- Whether a character is one of the controls of ASCII that steer a terminal: bell, backspace, form
feed, escape and delete. -/
def steersTerminal (c : Char) : Bool :=
  ['\x07', '\x08', '\x0c', '\x1b', '\x7f'].contains c

/-- Whether a character is one of the controls that follow ASCII. -/
def isLateControl (c : Char) : Bool :=
  0x80 ≤ c.toNat && c.toNat < 0xA0

/-- A character as a terminal may see it. -/
def harmlessChar (c : Char) : List Char :=
  if steersTerminal c then ['\\', 'x'] ++ Text.hexDigits 2 c.toNat
  else if isLateControl c then ['\\', 'u', '\x7b'] ++ Nat.toDigits 16 c.toNat ++ ['\x7d']
  else [c]

/-- A message in which no character steers a terminal. Line ends stay. -/
def harmless (message : String) : String :=
  String.ofList (message.toList.flatMap harmlessChar)

/-! ### Lines of both formats -/

/-- A line about something that happened at an instant. -/
def line (format : Format) (instant : Instant) (level : Level) (message : String) : String :=
  let time := Timestamp.writeMillis instant
  match format with
  | .text => time ++ " " ++ level.name ++ " " ++ harmless message
  | .json =>
    (Json.object
      [("level", .string level.name), ("message", .string message),
        ("timestamp", .string time)]).compact

end RunningBalance.Log
