import RunningBalance.Decimal
import RunningBalance.Text.Blank

/-!
# Token amounts

Amounts are whole numbers of base units, so that no precision is lost. `read?` reads one from the
text an event carries; `inUnits?` writes a signed amount in whole tokens, exactly and with the
fewest fraction digits.
-/

set_option autoImplicit false
set_option relaxedAutoImplicit false

namespace RunningBalance.Amount

/-- The number of decimals of most tokens. -/
def usualDecimals : Nat :=
  18

/-- A token amount is written as decimal digits: no sign, separator, blank, point or exponent. -/
def read? (text : String) : Option Nat :=
  Decimal.natural? text.toList

def write (amount : Int) : String :=
  String.ofList (Decimal.ofInt amount)

/-- The widest field to which digits can be padded. -/
def widestField : Nat :=
  65535

/-- Integer part and fraction of a run of digits whose last `decimals` are the fraction. Fewer
digits than that are padded with zeros, up to the widest field. -/
def split? (digits : List Char) (decimals : Nat) : Option (List Char × List Char) :=
  if decimals < digits.length then
    some (digits.take (digits.length - decimals), digits.drop (digits.length - decimals))
  else if decimals ≤ widestField then some (['0'], digits.leftpad decimals '0')
  else none

/-- A fraction without its trailing zeros, or a single zero. -/
def trimFraction (fraction : List Char) : List Char :=
  match Text.dropTrailing (· = '0') fraction with
  | [] => ['0']
  | digits => digits

/-- The amount divided by `10 ^ decimals`, with at least one fraction digit and no trailing zero
after the first; there is no such text when the fraction is wider than the widest field. -/
def inUnits? (amount : Int) (decimals : Nat) : Option String :=
  (split? (Decimal.ofNat amount.natAbs) decimals).map fun (whole, fraction) ↦
    String.ofList
      ((if amount < 0 then ['-'] else []) ++ whole ++ '.' :: trimFraction fraction)

end RunningBalance.Amount
