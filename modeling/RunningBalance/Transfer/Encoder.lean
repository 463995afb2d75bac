import RunningBalance.Json.Basic
import RunningBalance.Transfer

/-!
# Transfers as JSON

The fields of a transfer under their keys. A field without a value is left out, but the date of a
chain transfer is always written.
-/

set_option autoImplicit false
set_option relaxedAutoImplicit false

namespace RunningBalance

namespace Transfer

/-- A member for an optional text. -/
def textMember (key : String) (value : Option String) : List (String × Json) :=
  value.toList.map fun text ↦ (key, .string text)

/-- A member for an optional integer. -/
def integerMember (key : String) (value : Option Int64) : List (String × Json) :=
  value.toList.map fun number ↦ (key, .integer number.toInt)

end Transfer

open Transfer

/-- The members stand in the order of their keys. -/
def ChainTransfer.json (transfer : ChainTransfer) : Json :=
  .object
    ([("blockchainDate", transfer.blockchainDate.elim .null .string)] ++
      integerMember "chainId" transfer.chainId ++ integerMember "chainTxId" transfer.chainTxId ++
      textMember "fromAddr" transfer.fromAddr ++ [("id", .integer transfer.id.toInt)] ++
      textMember "receiverAddr" transfer.receiverAddr ++
      textMember "tokenAddr" transfer.tokenAddr ++ [("tokenAmount", .string transfer.tokenAmount)])

/-- The members stand in the order of their keys. -/
def TransferIn.json (transfer : TransferIn) : Json :=
  .object
    (integerMember "chainId" transfer.chainId ++ textMember "fromAddr" transfer.fromAddr ++
      [("id", .integer transfer.id.toInt)] ++ textMember "paymentId" transfer.paymentId ++
      textMember "receivedDate" transfer.receivedDate ++
      textMember "receiverAddr" transfer.receiverAddr ++
      [("requestedDate", .string transfer.requestedDate)] ++
      textMember "tokenAddr" transfer.tokenAddr ++
      [("tokenAmount", .string transfer.tokenAmount)] ++ textMember "txHash" transfer.txHash)

def Transfers.json (transfers : Transfers) : Json :=
  .object
    [("chainTransfers", .array (transfers.chainTransfers.map ChainTransfer.json)),
      ("transfersIn", .array (transfers.transfersIn.map TransferIn.json))]

def Event.json : Event → Json
  | .chainTransfer transfer => transfer.json
  | .transferIn transfer => transfer.json

end RunningBalance
