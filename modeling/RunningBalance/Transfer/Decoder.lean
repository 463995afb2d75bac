import RunningBalance.Json.Reader
import RunningBalance.Json.Record
import RunningBalance.Transfer

/-!
# Transfers from JSON

The columns of each kind of transfer, and the values their cells may have. An optional cell may be
missing or null; the number, the date and the amount come first and an array has them all.
-/

set_option autoImplicit false
set_option relaxedAutoImplicit false

namespace RunningBalance

open Json (Column Draft Fault)

namespace Transfer

/-- The value of a cell. -/
inductive Cell
  | integer (value : Int64)
  | text (value : String)
  | nothing
  deriving DecidableEq, Repr

def Cell.integer? : Cell → Option Int64
  | .integer value => some value
  | _ => none

def Cell.text? : Cell → Option String
  | .text value => some value
  | _ => none

/-- An integer of 64 bits. -/
def readInteger : Draft → Except Fault Cell
  | .integer value =>
    if Int64.minValue.toInt ≤ value ∧ value ≤ Int64.maxValue.toInt then
      .ok (.integer (Int64.ofInt value))
    else .error .malformed
  | _ => .error .malformed

def readText (draft : Draft) : Except Fault Cell :=
  .text <$> Json.readString draft

/-- Null, or a cell of the given kind. -/
def orNothing (read : Draft → Except Fault Cell) : Draft → Except Fault Cell
  | .null => .ok .nothing
  | draft => read draft

def required (name : String) (read : Draft → Except Fault Cell) : Column Cell :=
  { name, read, absent := none, beyond := none }

def optional (name : String) (read : Draft → Except Fault Cell) : Column Cell :=
  { name, read := orNothing read, absent := some .nothing, beyond := some .nothing }

end Transfer

open Transfer

namespace TransferIn

def columns : List (Column Cell) :=
  [required "id" readInteger, required "requestedDate" readText, required "tokenAmount" readText,
    optional "paymentId" readText, optional "fromAddr" readText, optional "receiverAddr" readText,
    optional "chainId" readInteger, optional "tokenAddr" readText, optional "txHash" readText,
    optional "receivedDate" readText]

def ofCells : List Cell → Except Fault TransferIn
  | [.integer id, .text requestedDate, .text tokenAmount, paymentId, fromAddr, receiverAddr,
      chainId, tokenAddr, txHash, receivedDate] =>
    .ok
      { id, requestedDate, tokenAmount
        paymentId := paymentId.text?
        fromAddr := fromAddr.text?
        receiverAddr := receiverAddr.text?
        chainId := chainId.integer?
        tokenAddr := tokenAddr.text?
        txHash := txHash.text?
        receivedDate := receivedDate.text? }
  | _ => .error .malformed

def ofDraft (draft : Draft) : Except Fault TransferIn := do
  ofCells (← Json.readRecord columns draft)

end TransferIn

namespace ChainTransfer

/-- The date may be missing in an object, but not in an array. -/
def columns : List (Column Cell) :=
  [required "id" readInteger, { optional "blockchainDate" readText with beyond := none },
    required "tokenAmount" readText, optional "chainId" readInteger,
    optional "chainTxId" readInteger, optional "fromAddr" readText,
    optional "receiverAddr" readText, optional "tokenAddr" readText]

def ofCells : List Cell → Except Fault ChainTransfer
  | [.integer id, blockchainDate, .text tokenAmount, chainId, chainTxId, fromAddr, receiverAddr,
      tokenAddr] =>
    .ok
      { id
        blockchainDate := blockchainDate.text?
        tokenAmount
        chainId := chainId.integer?
        chainTxId := chainTxId.integer?
        fromAddr := fromAddr.text?
        receiverAddr := receiverAddr.text?
        tokenAddr := tokenAddr.text? }
  | _ => .error .malformed

def ofDraft (draft : Draft) : Except Fault ChainTransfer := do
  ofCells (← Json.readRecord columns draft)

end ChainTransfer

namespace Transfers

/-- The value of one of the two lists. -/
inductive Cell
  | transfersIn (transfers : List TransferIn)
  | chainTransfers (transfers : List ChainTransfer)

/-- Both lists; a missing one is empty. -/
def columns : List (Column Cell) :=
  [{ name := "transfersIn"
     read := fun draft ↦ .transfersIn <$> Json.readList TransferIn.ofDraft draft
     absent := some (.transfersIn [])
     beyond := some (.transfersIn []) },
    { name := "chainTransfers"
      read := fun draft ↦ .chainTransfers <$> Json.readList ChainTransfer.ofDraft draft
      absent := some (.chainTransfers [])
      beyond := some (.chainTransfers []) }]

def ofCells : List Cell → Except Fault Transfers
  | [.transfersIn transfersIn, .chainTransfers chainTransfers] =>
    .ok { transfersIn, chainTransfers }
  | _ => .error .malformed

def ofDraft (draft : Draft) : Except Fault Transfers := do
  ofCells (← Json.readRecord columns draft)

/-- The transfers that a text encodes. -/
def ofText (text : String) : Except Fault Transfers :=
  Json.decode ofDraft text

end Transfers

end RunningBalance
