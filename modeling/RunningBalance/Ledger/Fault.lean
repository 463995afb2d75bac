import RunningBalance.Account
import RunningBalance.Text.Quoted
import RunningBalance.Transfer

/-!
# Faults of a ledger

Why no ledger can be made, with the event that is at fault where there is one. The messages quote
the texts of events, so that a fault stays on one line and shows exactly what was sent.
-/

set_option autoImplicit false
set_option relaxedAutoImplicit false

namespace RunningBalance.Ledger

inductive Fault
  | invalidAmount (event : EventId) (value : String)
  | invalidDate (event : EventId) (value : String)
  | missingDate (event : EventId)
  | invalidAccount (text : String)
  /-- The collector of metrics refuses. -/
  | metrics (reason : String)
  deriving DecidableEq, Repr

namespace Fault

def message : Fault → String
  | .invalidAmount event value =>
    "Invalid token amount " ++ Text.quoted value ++ " in " ++ event.write
  | .invalidDate event value => "Invalid date " ++ Text.quoted value ++ " in " ++ event.write
  | .missingDate event => "Missing date in " ++ event.write
  | .invalidAccount text => "Invalid account address: " ++ text
  | .metrics reason => "Metrics error: Error: " ++ reason

/-- The event at fault. -/
def event? : Fault → Option EventId
  | .invalidAmount event _ => some event
  | .invalidDate event _ => some event
  | .missingDate event => some event
  | .invalidAccount _ => none
  | .metrics _ => none

end Fault

end RunningBalance.Ledger

/-- The account that a text names. -/
def RunningBalance.Account.ofText (text : String) : Except Ledger.Fault Account :=
  match read? text with
  | some account => .ok account
  | none => .error (.invalidAccount text)
