import RunningBalance.Decimal
import RunningBalance.Text.Blank

/-!
# Shortest decimals

A binary fraction with a mantissa of 53 bits is written with the fewest digits that read back as the
same fraction, and among those with the ones nearest to it. All digits are positional: there is
never an exponent, and no zero ends a fraction.
-/

set_option autoImplicit false
set_option relaxedAutoImplicit false

namespace RunningBalance.Decimal

/-- The positive number `mantissa * 2 ^ exponent`. -/
structure BinaryFraction where
  mantissa : Nat
  exponent : Int
  deriving DecidableEq, Repr

namespace BinaryFraction

/-- The least mantissa of full width. -/
def fullMantissa : Nat :=
  Nat.pow 2 52

/-- The exponent of the smallest fractions, whose mantissas may be less than full. -/
def lowestExponent : Int :=
  -1074

/-- A natural number rounded to a mantissa of 53 bits, a tie to the even mantissa. -/
def round (n : Nat) : BinaryFraction :=
  let shift := n.log2 - 52
  let unit := Nat.pow 2 shift
  let floor := n / unit
  let up := unit < 2 * (n % unit) || unit = 2 * (n % unit) && floor % 2 = 1
  let mantissa := if up then floor + 1 else floor
  if mantissa = 2 * fullMantissa then { mantissa := fullMantissa, exponent := shift + 1 }
  else { mantissa, exponent := shift }

/-- Four times the fraction and four times the ends of the interval of numbers that round to it,
over one denominator. Half a unit of the mantissa lies on either side, but below a power of two the
next fraction is twice as near, unless the exponent can get no lower. -/
def scaled (x : BinaryFraction) : (Nat × Nat × Nat) × Nat :=
  let below := if x.mantissa = fullMantissa ∧ x.exponent ≠ lowestExponent then 1 else 2
  let up := Nat.pow 2 (x.exponent - 2).toNat
  let down := Nat.pow 2 (2 - x.exponent).toNat
  (((4 * x.mantissa - below) * up, 4 * x.mantissa * up, (4 * x.mantissa + 2) * up), down)

/-- The multiple of `10 ^ place` nearest to the fraction that reads back as it, if there is one, in
units of `10 ^ place`. -/
def onGrid? (x : BinaryFraction) (place : Int) : Option Nat :=
  let ((low, middle, high), denominator) := x.scaled
  let tenUp := Nat.pow 10 place.toNat * denominator
  let tenDown := Nat.pow 10 (-place).toNat
  let floor := middle * tenDown / tenUp
  let reads (multiple : Nat) : Bool :=
    if x.mantissa % 2 = 0 then low * tenDown ≤ multiple * tenUp && multiple * tenUp ≤ high * tenDown
    else low * tenDown < multiple * tenUp && multiple * tenUp < high * tenDown
  let nearFloor := 2 * (middle * tenDown - floor * tenUp) < tenUp
  match reads floor, reads (floor + 1) with
  | true, true => some (if nearFloor then floor else floor + 1)
  | true, false => some floor
  | false, true => some (floor + 1)
  | false, false => none

/-- The number of digits before the point; zeros after the point count as negative. -/
def magnitude (x : BinaryFraction) : Int :=
  let ((_, middle, _), denominator) := x.scaled
  (ofNat (middle * Nat.pow 10 400 / denominator)).length - 400

/-- The digits and the place of the last one, with the fewest digits that read back. Seventeen
always do. -/
def shortest (x : BinaryFraction) : Nat × Int :=
  let places := (List.range 17).map fun (extra : Nat) ↦ x.magnitude - 1 - (extra : Int)
  (places.findSome? fun place ↦ (x.onGrid? place).map (·, place)).getD (0, 0)

end BinaryFraction

/-- The number `digits * 10 ^ place` without an exponent and without zeros at the end of its
fraction. -/
def positional (digits : Nat) (place : Int) : List Char :=
  let shown := ofNat digits
  if 0 ≤ place then shown ++ List.replicate place.toNat '0'
  else
    let padded := shown.leftpad ((-place).toNat + 1) '0'
    let whole := padded.take (padded.length - (-place).toNat)
    match Text.dropTrailing (· = '0') (padded.drop (padded.length - (-place).toNat)) with
    | [] => whole
    | fraction => whole ++ '.' :: fraction

/-- A natural number after rounding to 53 bits. Below `2 ^ 53` that changes nothing. -/
def ofRoundedNat (n : Nat) : List Char :=
  if n < 2 * BinaryFraction.fullMantissa then ofNat n
  else
    let (digits, place) := (BinaryFraction.round n).shortest
    positional digits place

/-- A floating-point number in double precision. -/
def ofFloat (x : Float) : List Char :=
  let bits : Nat := x.toBits.toNat
  let sign := if bits / Nat.pow 2 63 = 1 then ['-'] else []
  let exponent : Nat := bits / BinaryFraction.fullMantissa % Nat.pow 2 11
  let mantissa : Nat := bits % BinaryFraction.fullMantissa
  if exponent = 2047 then
    if mantissa = 0 then sign ++ ['i', 'n', 'f'] else ['N', 'a', 'N']
  else if exponent = 0 ∧ mantissa = 0 then sign ++ ['0']
  else
    let fraction : BinaryFraction :=
      if exponent = 0 then { mantissa, exponent := BinaryFraction.lowestExponent }
      else
        { mantissa := mantissa + BinaryFraction.fullMantissa
          exponent := (exponent : Int) - 1075 }
    let (digits, place) := fraction.shortest
    sign ++ positional digits place

end RunningBalance.Decimal
