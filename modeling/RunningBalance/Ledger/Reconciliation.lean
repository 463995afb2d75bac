import RunningBalance.Amount
import RunningBalance.Ledger.Basic
import RunningBalance.Ledger.Fault
import RunningBalance.Timestamp.Reader

/-!
# Reconciliation

Chain transfers are credits and transfer-ins are debits. Both are put in the order of their
instants, a transfer-in before a chain transfer of the same instant and events of one kind in the
order given. What precedes the first transfer-in is dropped, and the balance is summed up from zero.
A fault in any event, also in one that would be dropped, leaves no ledger at all.
-/

set_option autoImplicit false
set_option relaxedAutoImplicit false

namespace RunningBalance

/-- An event with the instant and the signed amount that its texts denote. -/
structure Movement where
  date : Instant
  delta : Int
  origin : Event
  deriving DecidableEq, Repr

namespace Event

/-- The instant of an event, from the text of its date. -/
def readDate (event : EventId) (text : String) : Except Ledger.Fault Instant :=
  match Timestamp.read? text with
  | some date => .ok date
  | none => .error (.invalidDate event text)

/-- The amount of an event, from its text. -/
def readAmount (event : EventId) (text : String) : Except Ledger.Fault Nat :=
  match Amount.read? text with
  | some amount => .ok amount
  | none => .error (.invalidAmount event text)

end Event

/-- The debit that a transfer-in makes. Of two faults the one in its date is reported. -/
def TransferIn.movement (transfer : TransferIn) : Except Ledger.Fault Movement := do
  let origin := Event.transferIn transfer
  let date ← Event.readDate origin.id transfer.requestedDate
  let amount ← Event.readAmount origin.id transfer.tokenAmount
  pure { date, delta := -amount, origin }

/-- The credit that a chain transfer makes. Of two faults the one in its date is reported. -/
def ChainTransfer.movement (transfer : ChainTransfer) : Except Ledger.Fault Movement := do
  let origin := Event.chainTransfer transfer
  match transfer.blockchainDate with
  | none => throw (.missingDate origin.id)
  | some text =>
    let date ← Event.readDate origin.id text
    let amount ← Event.readAmount origin.id transfer.tokenAmount
    pure { date, delta := amount, origin }

/-- The movements of all events, the transfer-ins first. -/
def movements (chainTransfers : List ChainTransfer) (transfersIn : List TransferIn) :
    Except Ledger.Fault (List Movement) := do
  let debits ← transfersIn.mapM TransferIn.movement
  let credits ← chainTransfers.mapM ChainTransfer.movement
  pure (debits ++ credits)

namespace Ledger

/-- The movements by instant; those of one instant keep their order. -/
def sort (movements : List Movement) : List Movement :=
  movements.mergeSort fun a b ↦ decide (a.date ≤ b.date)

def isCredit (movement : Movement) : Bool :=
  movement.origin.source = .chainTransfer

/-- The rows of movements that follow a balance. -/
def accumulate (balance : Int) : List Movement → List Entry
  | [] => []
  | movement :: later =>
    { id := movement.origin.id
      date := movement.date
      delta := movement.delta
      balance := balance + movement.delta
      origin := movement.origin } :: accumulate (balance + movement.delta) later

/-- The ledger of movements, from the first transfer-in on. -/
def ofMovements (movements : List Movement) : Ledger :=
  let sorted := sort movements
  { entries := (accumulate 0 (sorted.dropWhile isCredit)).reverse
    dropped := (sorted.takeWhile isCredit).length }

end Ledger

/-- The ledger of an account's transfers. -/
def reconcile (chainTransfers : List ChainTransfer) (transfersIn : List TransferIn) :
    Except Ledger.Fault Ledger :=
  (movements chainTransfers transfersIn).map Ledger.ofMovements

def Transfers.reconcile (transfers : Transfers) : Except Ledger.Fault Ledger :=
  RunningBalance.reconcile transfers.chainTransfers transfers.transfersIn

end RunningBalance
