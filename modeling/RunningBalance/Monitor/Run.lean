import RunningBalance.Monitor.Basic

/-!
# Runs of a monitor

A run is a sequence of steps: a visit to one account, monitored or not, or a round through all
monitored accounts. Each visit has a backend of its own, also where a round visits an account again.
The state passes from each step to the next.
-/

set_option autoImplicit false
set_option relaxedAutoImplicit false

namespace RunningBalance.Monitor

/-- What a step does. -/
inductive Action
  | one (account : Account)
  | all
  deriving DecidableEq, Repr

structure Step where
  action : Action
  /-- What its visits meet, one after the other. -/
  occasions : Nat → Occasion

/-- How a step ends. -/
inductive Result
  | changed (ledger : Ledger)
  | unchanged
  | failed (fault : Fault)
  /-- All accounts were visited. -/
  | refreshed
  /-- All accounts were visited, and every visit failed. -/
  | allFailed (count : Nat)
  /-- A ledger could not be rendered. -/
  | aborted

/-- What a step says about its failure. -/
def Result.message? : Result → Option String
  | .failed fault => some fault.message
  | .allFailed count => some (allFailedMessage count)
  | _ => none

/-- What a step shows. -/
structure Report where
  result : Result
  printed : List (Account × String)
  complaints : List Complaint
  requests : List Request
  /-- The state after the step. -/
  state : State

def Visit.result (visit : Visit) : Result :=
  match visit.outcome with
  | .ok (some ledger) => .changed ledger
  | .ok none => .unchanged
  | .error fault => .failed fault

def Visit.report (visit : Visit) : Report where
  result := visit.result
  printed := []
  complaints := []
  requests := visit.requests
  state := visit.state

def roundResult (monitor : Monitor) (round : Round) : Result :=
  if round.aborted then .aborted
  else if monitor.allFailed round then .allFailed round.failures
  else .refreshed

def roundReport (monitor : Monitor) (round : Round) : Report where
  result := monitor.roundResult round
  printed := round.printed
  complaints := round.complaints
  requests := round.requests
  state := round.state

/-- What a step shows where a state holds. -/
def report (monitor : Monitor) (state : State) (step : Step) : Report :=
  match step.action with
  | .one account => (monitor.refresh (step.occasions 0) account state).report
  | .all => monitor.roundReport (monitor.refreshAll step.occasions state)

/-- What the steps of a run show, from a state on. -/
def run (monitor : Monitor) (state : State) : List Step → List Report
  | [] => []
  | step :: steps =>
    let report := monitor.report state step
    report :: run monitor report.state steps

/-- The state after a run. -/
def stateAfter (monitor : Monitor) (state : State) (steps : List Step) : State :=
  steps.foldl (fun state step ↦ (monitor.report state step).state) state

end RunningBalance.Monitor
