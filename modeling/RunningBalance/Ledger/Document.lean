import RunningBalance.Account
import RunningBalance.Amount
import RunningBalance.Json.Printer
import RunningBalance.Ledger.Basic
import RunningBalance.Timestamp.Writer
import RunningBalance.Transfer.Encoder

/-!
# Ledgers as JSON documents

Amounts are strings of digits, so that none is rounded, and an entry carries the event it came from.
The members of every object stand in the order of their keys.
-/

set_option autoImplicit false
set_option relaxedAutoImplicit false

namespace RunningBalance

/-- An event with the word for its kind. -/
def Event.taggedJson (event : Event) : Json :=
  .object [("event", event.json), ("kind", .string event.source.kind)]

def Entry.json (entry : Entry) : Json :=
  .object
    [("date", .string (Timestamp.write entry.date)), ("delta", .string (Amount.write entry.delta)),
      ("id", .string entry.id.write), ("origin", entry.origin.taggedJson),
      ("runningBalance", .string (Amount.write entry.balance))]

def Summary.json (summary : Summary) : Json :=
  .object
    [("balance", .string (Amount.write summary.balance)),
      ("credited", .string (Amount.write summary.credited)),
      ("debited", .string (Amount.write summary.debited)), ("dropped", .integer summary.dropped),
      ("entries", .integer summary.entries)]

namespace Ledger

def json (ledger : Ledger) : Json :=
  .object
    [("dropped", .integer ledger.dropped), ("entries", .array (ledger.entries.map Entry.json))]

/-- The document about an account: its ledger's rows and totals. -/
def document (account : Account) (ledger : Ledger) : Json :=
  .object
    [("account", .string account.write), ("entries", .array (ledger.entries.map Entry.json)),
      ("summary", ledger.summary.json)]

end Ledger

end RunningBalance
