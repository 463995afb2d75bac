import RunningBalance.Decimal

/-!
# Transfers of an account

What the backend knows of an account: the tokens seen arriving on the chain, and the requests by
which tokens were transferred in. Dates and amounts stay as the texts that were sent, so that a
fault in one can name the event it came from.
-/

set_option autoImplicit false
set_option relaxedAutoImplicit false

namespace RunningBalance

/-- Tokens observed arriving on the chain. The date is unknown until the block has one. -/
structure ChainTransfer where
  id : Int64
  blockchainDate : Option String
  tokenAmount : String
  chainId : Option Int64 := none
  chainTxId : Option Int64 := none
  fromAddr : Option String := none
  receiverAddr : Option String := none
  tokenAddr : Option String := none
  deriving DecidableEq, Repr

/-- A request to transfer tokens in. -/
structure TransferIn where
  id : Int64
  requestedDate : String
  tokenAmount : String
  paymentId : Option String := none
  fromAddr : Option String := none
  receiverAddr : Option String := none
  chainId : Option Int64 := none
  tokenAddr : Option String := none
  txHash : Option String := none
  receivedDate : Option String := none
  deriving DecidableEq, Repr

/-- All transfers of one account, in the order the backend gives them. -/
structure Transfers where
  transfersIn : List TransferIn := []
  chainTransfers : List ChainTransfer := []
  deriving DecidableEq, Repr

/-- The kind of an event. -/
inductive Source
  | chainTransfer
  | transferIn
  deriving DecidableEq, Repr

namespace Source

/-- The start of the names of events of this kind. -/
def label : Source → String
  | .chainTransfer => "chain_transfer"
  | .transferIn => "transfer_in"

def title : Source → String
  | .chainTransfer => "Chain transfer"
  | .transferIn => "Transfer in"

/-- The word for the kind in documents. -/
def kind : Source → String
  | .chainTransfer => "chainTransfer"
  | .transferIn => "transferIn"

end Source

/-- The name of an event: its kind and its number, which is unique within the kind. -/
structure EventId where
  source : Source
  number : Int64
  deriving DecidableEq, Repr

/-- The kind and the number, joined by an underscore. -/
def EventId.write (id : EventId) : String :=
  id.source.label ++ "_" ++ String.ofList (Decimal.ofInt id.number.toInt)

/-- A transfer of either kind. -/
inductive Event
  | chainTransfer (transfer : ChainTransfer)
  | transferIn (transfer : TransferIn)
  deriving DecidableEq, Repr

namespace Event

def source : Event → Source
  | .chainTransfer _ => .chainTransfer
  | .transferIn _ => .transferIn

def number : Event → Int64
  | .chainTransfer transfer => transfer.id
  | .transferIn transfer => transfer.id

def id (event : Event) : EventId :=
  { source := event.source, number := event.number }

end Event

end RunningBalance
