import RunningBalance.Decimal
import RunningBalance.Text.Hex

/-!
# Numbers in TOML

Integers of 64 bits in four bases and floats. One underscore may stand between two digits, and a
decimal number has no needless zero in front.
-/

set_option autoImplicit false
set_option relaxedAutoImplicit false

namespace RunningBalance.Toml.Number

/-- Digits, between any two of which one underscore may stand, without the underscores. -/
def grouped? (isDigit : Char → Bool) : List Char → Option (List Char)
  | [] => none
  | [c] => if isDigit c then some [c] else none
  | c :: '_' :: rest => if isDigit c then (grouped? isDigit rest).map (c :: ·) else none
  | c :: rest => if isDigit c then (grouped? isDigit rest).map (c :: ·) else none

/-- The digits of a whole number, which starts with zero only if it is zero. -/
def whole? (text : List Char) : Option (List Char) :=
  match grouped? Char.isDigit text with
  | some ('0' :: _ :: _) => none
  | digits => digits

def isHexDigit (c : Char) : Bool :=
  (Text.hexDigit? c).isSome

/-- The characters that are digits in a base of at most ten. -/
def isDigitBelow (base : Nat) (c : Char) : Bool :=
  c.isDigit && c.toNat - '0'.toNat < base

/-- The least number that is too large for an integer. -/
def integerLimit : Int :=
  Nat.pow 2 63

/-- An integer without a sign, in a base that its mark tells. -/
def marked? : List Char → Option Nat
  | '0' :: 'x' :: digits => (grouped? isHexDigit digits).bind (Text.hexNumber? 0)
  | '0' :: 'o' :: digits =>
    (grouped? (isDigitBelow 8) digits).map fun digits ↦ Nat.ofDigitChars 8 digits 0
  | '0' :: 'b' :: digits =>
    (grouped? (isDigitBelow 2) digits).map fun digits ↦ Nat.ofDigitChars 2 digits 0
  | _ => none

/-- An integer in decimal notation, with an optional sign. -/
def signed? (text : List Char) : Option Int :=
  let (negative, digits) := Decimal.splitSign text
  (whole? digits).map fun digits ↦
    if negative then -(Decimal.value digits : Int) else Decimal.value digits

def integer? (text : List Char) : Option Int :=
  match (marked? text).map Int.ofNat <|> signed? text with
  | some value => if -integerLimit ≤ value ∧ value < integerLimit then some value else none
  | none => none

def isExponentMark (c : Char) : Bool :=
  c = 'e' || c = 'E'

/-- The exponent that follows the mantissa of a float; without a mark it is zero. -/
def exponent? : List Char → Option Int
  | [] => some 0
  | _ :: text =>
    let (negative, digits) := Decimal.splitSign text
    (grouped? Char.isDigit digits).map fun digits ↦
      if negative then -(Decimal.value digits : Int) else Decimal.value digits

/-- The digits of a mantissa before and after its point, if it has one. -/
def mantissa? (text : List Char) : Option (List Char × List Char) := do
  let whole ← whole? (text.takeWhile (· ≠ '.'))
  match text.dropWhile (· ≠ '.') with
  | [] => pure (whole, [])
  | _ :: fraction => pure (whole, ← grouped? Char.isDigit fraction)

/-- The least number that rounds beyond double precision. -/
def doubleLimit : Nat :=
  Nat.pow 2 1024 - Nat.pow 2 970

/-- Whether `mantissa * 10 ^ exponent` stays within double precision. The limit has 309 digits. -/
def inDoubleRange (mantissa : Nat) (exponent : Int) : Bool :=
  let magnitude := (Decimal.ofNat mantissa).length + exponent
  mantissa = 0 || magnitude < 309 ||
    magnitude = 309 &&
      mantissa * Nat.pow 10 exponent.toNat < doubleLimit * Nat.pow 10 (-exponent).toNat

/-- Whether the text is a float with a point or an exponent. A positive one has to be within double
precision; a negative one beyond it stands for infinity. -/
def isDecimalFloat (text : List Char) : Bool :=
  let (negative, unsigned) := Decimal.splitSign text
  let mantissa := unsigned.takeWhile (!isExponentMark ·)
  let mark := unsigned.dropWhile (!isExponentMark ·)
  match mantissa? mantissa, exponent? mark with
  | some (whole, fraction), some exponent =>
    (!fraction.isEmpty || !mark.isEmpty) &&
      (negative || inDoubleRange (Decimal.value (whole ++ fraction)) (exponent - fraction.length))
  | _, _ => false

/-- Whether the text is infinity or not a number, with an optional sign. -/
def isSpecialFloat (text : List Char) : Bool :=
  let (_, name) := Decimal.splitSign text
  name = ['i', 'n', 'f'] || name = ['n', 'a', 'n']

def isFloat (text : List Char) : Bool :=
  isDecimalFloat text || isSpecialFloat text

end RunningBalance.Toml.Number
