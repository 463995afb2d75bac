import RunningBalance.Instant
import RunningBalance.Transfer

/-!
# Ledgers

A ledger lists the events of an account with the balance after each, the most recent first. It
starts with the first transfer-in; the chain transfers before it are only counted.
-/

set_option autoImplicit false
set_option relaxedAutoImplicit false

namespace RunningBalance

/-- A row of a ledger: the name of an event, its instant, the signed change it makes, the balance
after it, and the event. -/
structure Entry where
  id : EventId
  date : Instant
  delta : Int
  balance : Int
  origin : Event
  deriving DecidableEq, Repr

namespace Entry

/-- The kind of the row, which is in its name. -/
def source (entry : Entry) : Source :=
  entry.id.source

end Entry

structure Ledger where
  /-- The rows, the most recent first. -/
  entries : List Entry := []
  /-- The number of chain transfers before the first transfer-in. -/
  dropped : Nat := 0
  deriving DecidableEq, Repr

/-- Totals of a ledger. -/
structure Summary where
  credited : Int
  debited : Int
  balance : Int
  entries : Nat
  dropped : Nat
  deriving DecidableEq, Repr

namespace Ledger

/-- The rows, the oldest first. -/
def chronological (ledger : Ledger) : List Entry :=
  ledger.entries.reverse

def size (ledger : Ledger) : Nat :=
  ledger.entries.length

def isEmpty (ledger : Ledger) : Bool :=
  ledger.entries.isEmpty

/-- The balance after the most recent row, zero if there is none. -/
def currentBalance (ledger : Ledger) : Int :=
  match ledger.entries with
  | [] => 0
  | entry :: _ => entry.balance

/-- The sum of the changes made by events of one kind. -/
def total (ledger : Ledger) (source : Source) : Int :=
  (ledger.entries.filter fun entry ↦ entry.source = source).foldr
    (fun entry sum ↦ entry.delta + sum) 0

def summary (ledger : Ledger) : Summary where
  credited := ledger.total .chainTransfer
  debited := -ledger.total .transferIn
  balance := ledger.currentBalance
  entries := ledger.size
  dropped := ledger.dropped

end Ledger

end RunningBalance
