import RunningBalance.Ledger.Statement
import RunningBalance.Metrics.Call
import RunningBalance.Metrics.Exposition
import RunningBalance.Settings.Basic
import RunningBalance.Surroundings

/-!
# Monitors

A monitor follows accounts. It keeps the ledger of the last successful visit to each, and prints a
ledger when it has changed. `Monitor.refreshIn` visits one account; `Monitor.refreshAllIn` visits
every account in order, whatever fails on the way, and then leaves the metrics. Both do so in any
surroundings; `Monitor.refresh` and `Monitor.refreshAll` do so where it is set what they meet.
-/

set_option autoImplicit false
set_option relaxedAutoImplicit false

namespace RunningBalance

/-- Where metrics are left. -/
inductive MetricsTarget
  | nowhere
  | file (path : String)
  /-- A path that cannot be written, and why. -/
  | unwritable (path cause : String)
  deriving DecidableEq, Repr

structure Monitor where
  client : BackendClient
  accounts : List Account
  display : Display
  metricsTarget : MetricsTarget

namespace Monitor

structure State where
  /-- The ledger of the last successful visit to an account. -/
  ledgers : Account → Option Ledger
  metrics : Metrics
  /-- What the metrics file holds, once it is written. -/
  exposed : Option String

/-- Nothing has been visited. -/
def State.initial : State where
  ledgers := fun _ ↦ none
  metrics := .empty
  exposed := none

/-- The state with another ledger for an account. -/
def State.keep (state : State) (account : Account) (ledger : Ledger) : State :=
  { state with
    ledgers := fun asked ↦ if asked = account then some ledger else state.ledgers asked }

theorem State.keep_ledgers_self (state : State) (account : Account) (ledger : Ledger) :
    (state.keep account ledger).ledgers account = some ledger := by
  simp [keep]

theorem State.keep_ledgers_of_ne (state : State) {account asked : Account} (ledger : Ledger)
    (h : asked ≠ account) : (state.keep account ledger).ledgers asked = state.ledgers asked := by
  simp [keep, h]

/-- Why a visit fails. -/
inductive Fault
  | backend (fault : Backend.Fault)
  | reconciliation (account : Account) (fault : Ledger.Fault)
  deriving DecidableEq, Repr

def Fault.message : Fault → String
  | .backend fault => fault.message
  | .reconciliation account fault =>
    "Failed to reconcile account " ++ account.write ++ ": " ++ fault.message

def Fault.causes : Fault → List String
  | .backend fault => fault.causes
  | .reconciliation _ _ => []

/-! ### One account -/

/-- What comes of a visit. -/
structure Visit where
  /-- The new ledger, or none if it is as before. -/
  outcome : Except Fault (Option Ledger)
  requests : List Request
  state : State

/-- What comes of a visit that has fetched transfers: a pass over them, with the collector attached,
which takes so long. A failure leaves every ledger. -/
def settle (account : Account) (state : State) (requests : List Request) (transfers : Transfers)
    (seconds : Float) : Visit :=
  let (outcome, collector) := Metrics.pass (some state.metrics) transfers seconds
  let counted := { state with metrics := collector.getD state.metrics }
  match outcome with
  | .error fault =>
    { outcome := .error (.reconciliation account fault), requests, state := counted }
  | .ok ledger =>
    { outcome := .ok (if state.ledgers account = some ledger then none else some ledger)
      requests
      state := counted.keep account ledger }

section Surroundings

variable {m : Type → Type} [Monad m] (surroundings : Surroundings m) (monitor : Monitor)

/-- A visit to an account, at a place of its round. -/
def refreshIn (place : Nat) (account : Account) (state : State) : m Visit := do
  let exchange ← Backend.fetchIn (surroundings.ask place) monitor.client account
  match exchange.outcome with
  | .error fault =>
    pure { outcome := .error (.backend fault), requests := exchange.requests, state }
  | .ok transfers =>
    let seconds ← surroundings.time place transfers
    pure (settle account state exchange.requests transfers seconds)

end Surroundings

/-- A visit to an account. -/
@[irreducible]
def refresh (monitor : Monitor) (occasion : Occasion) (account : Account) (state : State) :
    Visit :=
  Id.run (monitor.refreshIn (.script fun _ ↦ occasion) 0 account state)

/-! ### All accounts -/

/-- A failure that is reported while the accounts are visited. -/
inductive Complaint
  | visit (account : Account) (fault : Fault)
  | metrics (path cause : String)
  deriving DecidableEq, Repr

def Complaint.message : Complaint → String
  | .visit account fault => "Failed to refresh account " ++ account.write ++ ": " ++ fault.message
  | .metrics path _ => "Failed to write metrics to " ++ path

def Complaint.causes : Complaint → List String
  | .visit _ fault => fault.causes
  | .metrics _ cause => [cause]

/-- The message with all its causes, as it is logged. -/
def Complaint.explanation (complaint : Complaint) : String :=
  String.intercalate ": " (complaint.message :: complaint.causes)

/-- What has come of the visits so far. -/
structure Round where
  state : State
  requests : List Request := []
  /-- The documents printed, each with its account. -/
  printed : List (Account × String) := []
  complaints : List Complaint := []
  /-- The number of visits that failed. -/
  failures : Nat := 0
  /-- Whether a ledger could not be rendered, which ends everything. -/
  aborted : Bool := false

section Surroundings

variable {m : Type → Type} [Monad m] (surroundings : Surroundings m) (monitor : Monitor)

/-- Visits one more account. -/
def visitIn (place : Nat) (round : Round) (account : Account) : m Round :=
  if round.aborted then pure round
  else do
    let visit ← monitor.refreshIn surroundings place account round.state
    let round := { round with state := visit.state, requests := round.requests ++ visit.requests }
    match visit.outcome with
    | .error fault =>
      let complaint := Complaint.visit account fault
      surroundings.log .error complaint.explanation
      pure
        { round with
          complaints := round.complaints ++ [complaint]
          failures := round.failures + 1 }
    | .ok none => pure round
    | .ok (some ledger) =>
      match ledger.render? account monitor.display with
      | some document =>
        surroundings.print document
        pure { round with printed := round.printed ++ [(account, document)] }
      | none => pure { round with aborted := true }

/-- Visits accounts one after another, from a place of the round on. -/
def visitsIn (place : Nat) (round : Round) : List Account → m Round
  | [] => pure round
  | account :: accounts => do
    let round ← monitor.visitIn surroundings place round account
    visitsIn (place + 1) round accounts

/-- Complains that metrics cannot be written. -/
def complainIn (round : Round) (path cause : String) : m Round := do
  let complaint := Complaint.metrics path cause
  surroundings.log .error complaint.explanation
  pure { round with complaints := round.complaints ++ [complaint] }

/-- Leaves the metrics after all visits. -/
def finishIn (round : Round) : m Round :=
  if round.aborted then pure round
  else
    match monitor.metricsTarget with
    | .nowhere => pure round
    | .file path => do
      let content := round.state.metrics.exposition
      match ← surroundings.writeFile path content with
      | none => pure { round with state := { round.state with exposed := some content } }
      | some cause => complainIn surroundings round path cause
    | .unwritable path cause => complainIn surroundings round path cause

def refreshAllIn (state : State) : m Round := do
  let round ← monitor.visitsIn surroundings 0 { state } monitor.accounts
  monitor.finishIn surroundings round

end Surroundings

/-- A round in which each visit meets an occasion of its own. -/
@[irreducible]
def refreshAll (monitor : Monitor) (occasions : Nat → Occasion) (state : State) : Round :=
  Id.run (monitor.refreshAllIn (.script occasions) state)

/-- Whether there were accounts to visit and every visit failed. -/
def allFailed (monitor : Monitor) (round : Round) : Bool :=
  0 < round.failures && round.failures = monitor.accounts.length

/-- The wording for the failure of so many accounts, which are all. -/
def allFailedMessage (count : Nat) : String :=
  "All " ++ writeCount count ++ " accounts failed to refresh"

end Monitor

end RunningBalance
