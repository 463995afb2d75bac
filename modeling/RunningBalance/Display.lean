import RunningBalance.Amount
import RunningBalance.Json.Record

/-!
# Display settings

How ledgers are shown: the decimals and the symbol of the token, and whether as lines of text or as
a JSON document.
-/

set_option autoImplicit false
set_option relaxedAutoImplicit false

namespace RunningBalance

/-- The two forms of what the program writes. -/
inductive Format
  | text
  | json
  deriving DecidableEq, Repr

def Format.name : Format → String
  | .text => "text"
  | .json => "json"

/-- The formats by their names. -/
def Format.choices : List (String × Format) :=
  [(Format.text.name, .text), (Format.json.name, .json)]

structure Display where
  decimals : Nat := Amount.usualDecimals
  symbol : String := "GLM"
  output : Format := .text
  deriving DecidableEq, Repr

namespace Display

/-- The number of decimals has 32 bits. -/
def decimalsLimit : Nat :=
  Nat.pow 2 32

/-- The value of one setting. -/
inductive Cell
  | decimals (value : Nat)
  | symbol (value : String)
  | output (value : Format)

def readDecimals : Json.Draft → Except Json.Fault Cell
  | .integer value =>
    if 0 ≤ value ∧ value < decimalsLimit then .ok (.decimals value.toNat) else .error .malformed
  | _ => .error .malformed

/-- Every setting that is missing has its usual value. -/
def columns : List (Json.Column Cell) :=
  let usual : Display := {}
  [{ name := "token_decimals"
     read := readDecimals
     absent := some (.decimals usual.decimals)
     beyond := some (.decimals usual.decimals) },
    { name := "token_symbol"
      read := fun draft ↦ .symbol <$> Json.readString draft
      absent := some (.symbol usual.symbol)
      beyond := some (.symbol usual.symbol) },
    { name := "output"
      read := fun draft ↦ .output <$> Json.readChoice Format.choices draft
      absent := some (.output usual.output)
      beyond := some (.output usual.output) }]

def ofCells : List Cell → Except Json.Fault Display
  | [.decimals decimals, .symbol symbol, .output output] => .ok { decimals, symbol, output }
  | _ => .error .malformed

def ofDraft (draft : Json.Draft) : Except Json.Fault Display := do
  ofCells (← Json.readRecord columns draft)

end Display

end RunningBalance
