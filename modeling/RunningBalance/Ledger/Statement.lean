import RunningBalance.Display
import RunningBalance.Ledger.Document

/-!
# Account statements

A ledger as lines of text: a header with the balance, a note on dropped transfers, and a row for
each entry, the most recent first. Amounts stand in base units and in whole tokens. There is no
statement when an amount cannot be written in whole tokens.
-/

set_option autoImplicit false
set_option relaxedAutoImplicit false

namespace RunningBalance

def writeCount (count : Nat) : String :=
  String.ofList (Decimal.ofNat count)

/-- The row of an entry: what happened, when, by how much, and the balance after it. -/
def Entry.line (entry : Entry) : String :=
  entry.source.title ++ " " ++ Timestamp.writeMillis entry.date ++ " " ++
    Amount.write entry.delta ++ " - balance: " ++ Amount.write entry.balance

/-- The row of an entry in a statement, with its amounts in whole tokens. -/
def Entry.row? (display : Display) (entry : Entry) : Option String := do
  let delta ← Amount.inUnits? entry.delta display.decimals
  let balance ← Amount.inUnits? entry.balance display.decimals
  pure ("  " ++ entry.line ++ " [" ++ delta ++ " " ++ display.symbol ++ " / " ++ balance ++ " " ++
    display.symbol ++ "]")

namespace Ledger

/-- The statement of a ledger without entries. -/
def emptyStatement (account : Account) (ledger : Ledger) : String :=
  "Balance " ++ account.write ++ ": no transfer-in requests" ++
    if ledger.dropped = 0 then ""
    else " (" ++ writeCount ledger.dropped ++ " chain transfers ignored)"

/-- The first line of a statement. -/
def header? (account : Account) (ledger : Ledger) (display : Display) : Option String :=
  let summary := ledger.summary
  (Amount.inUnits? summary.balance display.decimals).map fun balance ↦
    "Balance " ++ account.write ++ ": " ++ Amount.write summary.balance ++ " (" ++ balance ++ " " ++
      display.symbol ++ "), " ++ writeCount summary.entries ++ " entries"

/-- The line on dropped transfers, if there are any. -/
def droppedNote (ledger : Ledger) : List String :=
  if ledger.dropped = 0 then []
  else
    ["  " ++ writeCount ledger.dropped ++
      " chain transfers before the first transfer-in not shown"]

def statement? (account : Account) (ledger : Ledger) (display : Display) : Option String :=
  if ledger.isEmpty then some (emptyStatement account ledger)
  else do
    let header ← header? account ledger display
    let rows ← ledger.entries.mapM (Entry.row? display)
    pure ("\n".intercalate (header :: droppedNote ledger ++ rows))

/-- The ledger in the form that the display asks for. -/
def render? (account : Account) (ledger : Ledger) (display : Display) : Option String :=
  match display.output with
  | .text => statement? account ledger display
  | .json => some (document account ledger).pretty

end Ledger

end RunningBalance
