/-!
# Decimal numerals

Numbers as runs of decimal digits. Three readers of growing leniency: digits alone (`natural?`), an
optional plus sign and a bound (`bounded`), and a sign with underscores between the digits
(`integer`). `ofInt` writes the canonical numeral.
-/

set_option autoImplicit false
set_option relaxedAutoImplicit false

namespace RunningBalance.Decimal

/-- Why a text is not the numeral asked for. -/
inductive Fault
  | empty
  | digit
  | tooLarge
  deriving DecidableEq, Repr

def Fault.message : Fault → String
  | .empty => "cannot parse integer from empty string"
  | .digit => "invalid digit found in string"
  | .tooLarge => "number too large to fit in target type"

/-- The number that decimal digits denote, the most significant first. -/
def value (digits : List Char) : Nat :=
  Nat.ofDigitChars 10 digits 0

/-- A non-empty run of decimal digits and nothing else. -/
def natural? (text : List Char) : Option Nat :=
  if text.isEmpty || !text.all Char.isDigit then none else some (value text)

/-- The digits still to come extend the number read so far; the first character that is no digit or
carries the number to the limit decides. -/
def boundedFrom (limit soFar : Nat) : List Char → Except Fault Nat
  | [] => .ok soFar
  | c :: rest =>
    if !c.isDigit then .error .digit
    else if 10 * soFar + (c.toNat - '0'.toNat) < limit then
      boundedFrom limit (10 * soFar + (c.toNat - '0'.toNat)) rest
    else .error .tooLarge

/-- A number below `limit`, with an optional plus sign before its digits. -/
def bounded (limit : Nat) : List Char → Except Fault Nat
  | [] => .error .empty
  | ['+'] => .error .digit
  | '+' :: digits => boundedFrom limit 0 digits
  | digits => boundedFrom limit 0 digits

/-- Whether the text starts with a minus sign, and what follows its sign. -/
def splitSign : List Char → Bool × List Char
  | '-' :: rest => (true, rest)
  | '+' :: rest => (false, rest)
  | text => (false, text)

/-- An integer of any size: an optional sign, then digits, among which underscores may stand
anywhere but first. -/
def integer (text : List Char) : Except Fault Int :=
  let (negative, digits) := splitSign text
  if digits.isEmpty then .error .empty
  else if digits.head? = some '_' || !digits.all (fun c ↦ c.isDigit || c = '_') then .error .digit
  else
    let magnitude : Int := value (digits.filter Char.isDigit)
    .ok (if negative then -magnitude else magnitude)

def ofNat (n : Nat) : List Char :=
  Nat.toDigits 10 n

/-- The digits without needless zeros, after a minus sign when the number is negative. -/
def ofInt (n : Int) : List Char :=
  if n < 0 then '-' :: ofNat n.natAbs else ofNat n.natAbs

/-- The digits with zeros in front up to the given width. -/
def padded (width n : Nat) : List Char :=
  (ofNat n).leftpad width '0'

end RunningBalance.Decimal
