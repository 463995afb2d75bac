import RunningBalance.Ledger.Reconciliation
import RunningBalance.Metrics.Basic

/-!
# Calls on a metrics collector

A pass of reconciliation may have a collector attached, which counts how it ends. `Metrics.pass`
gives the outcome of a pass and the collector after it; what comes of the collector does not depend
on the outcomes before, nor an outcome on the collector. A collector can also be told of a pass
directly.
-/

set_option autoImplicit false
set_option relaxedAutoImplicit false

namespace RunningBalance.Metrics

/-- A pass that takes so long, with a collector attached or without one: its outcome, and the
collector after it. -/
def pass (collector : Option Metrics) (transfers : Transfers) (seconds : Float) :
    Except Ledger.Fault Ledger × Option Metrics :=
  match transfers.reconcile with
  | .ok ledger => (.ok ledger, collector.map (·.record ledger.dropped seconds))
  | .error fault => (.error fault, collector.map recordFailure)

/-- What may be done while a collector exists. -/
inductive Call
  /-- A pass with the collector attached, and how long it takes. -/
  | attached (transfers : Transfers) (seconds : Float)
  /-- A pass without a collector, and how long it takes. -/
  | plain (transfers : Transfers) (seconds : Float)
  | record (dropped : Nat) (seconds : Float)
  | recordFailure

/-- Makes a call: the outcome of the pass, if it is one, and the collector after it. -/
def perform (metrics : Metrics) : Call → Option (Except Ledger.Fault Ledger) × Metrics
  | .attached transfers seconds =>
    let (outcome, collector) := pass (some metrics) transfers seconds
    (some outcome, collector.getD metrics)
  | .plain transfers seconds =>
    let (outcome, collector) := pass none transfers seconds
    (some outcome, collector.getD metrics)
  | .record dropped seconds => (none, metrics.record dropped seconds)
  | .recordFailure => (none, metrics.recordFailure)

/-- Makes calls one after another: the outcomes of those that are passes, and the collector after
all of them. -/
def performAll (metrics : Metrics) :
    List Call → List (Option (Except Ledger.Fault Ledger)) × Metrics
  | [] => ([], metrics)
  | call :: calls =>
    let (outcome, metrics) := metrics.perform call
    let (outcomes, metrics) := metrics.performAll calls
    (outcome :: outcomes, metrics)

end RunningBalance.Metrics
