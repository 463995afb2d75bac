import RunningBalance.Proofs.Monitor.Visit

/-!
# What a collector counts

The counters of a collector wrap around, so they show numbers modulo `2 ^ 64` (`Metrics.Counts`). A
call moves them by what it counts (`Counts.perform`), and so they show after any calls, in any
order, what the calls count altogether (`counts_performAll`). The histogram has as many durations as
there are successful passes.

`counters_follow_calls` adds that nothing comes back from the collector: the outcome of a pass is
that of reconciliation, whatever collector is attached (`pass_outcome`), and what is not reconciled
does not reach it.
-/

set_option autoImplicit false
set_option relaxedAutoImplicit false

namespace RunningBalance.Metrics

/-! ### What calls count -/

namespace Call

/-- The transfers that a call reconciles. -/
def transfers? : Call → Option Transfers
  | attached transfers _ => some transfers
  | plain transfers _ => some transfers
  | _ => none

/-- The transfers that a call reconciles with the collector attached. -/
def attached? : Call → Option Transfers
  | attached transfers _ => some transfers
  | _ => none

/-- What was dropped in a successful pass that the collector is told of. -/
def told? : Call → Option ℕ
  | record dropped _ => some dropped
  | _ => none

/-- Whether the collector is told of an aborted pass. -/
def tellsFailure : Call → Bool
  | recordFailure => true
  | _ => false

/-- Whether a call is a pass without a collector. -/
def isPlain : Call → Bool
  | plain _ _ => true
  | _ => false

end Call

/-- The ledgers that passes over transfers make. -/
def ledgersOf (passes : List Transfers) : List Ledger :=
  passes.filterMap fun transfers ↦ transfers.reconcile.toOption

/-- The number of passes over transfers that are aborted. -/
def abortedOf (passes : List Transfers) : ℕ :=
  passes.countP fun transfers ↦ !transfers.reconcile.isOk

/-- The number of attached passes that succeed, and of those that the collector is told of. -/
def successes (calls : List Call) : ℕ :=
  (ledgersOf (calls.filterMap Call.attached?)).length + (calls.filterMap Call.told?).length

/-- The number of transfers dropped in all these passes. -/
def droppedBy (calls : List Call) : ℕ :=
  ((ledgersOf (calls.filterMap Call.attached?)).map Ledger.dropped).sum +
    (calls.filterMap Call.told?).sum

/-- The number of attached passes that are aborted, and of those that the collector is told of. -/
def aborts (calls : List Call) : ℕ :=
  abortedOf (calls.filterMap Call.attached?) + calls.countP Call.tellsFailure

section Append

theorem ledgersOf_append (passes more : List Transfers) :
    ledgersOf (passes ++ more) = ledgersOf passes ++ ledgersOf more :=
  List.filterMap_append

theorem abortedOf_append (passes more : List Transfers) :
    abortedOf (passes ++ more) = abortedOf passes + abortedOf more :=
  List.countP_append

variable (calls more : List Call)

theorem successes_append : successes (calls ++ more) = successes calls + successes more := by
  simp only [successes, ledgersOf_append, List.filterMap_append, List.length_append]
  exact Nat.add_add_add_comm _ _ _ _

theorem droppedBy_append : droppedBy (calls ++ more) = droppedBy calls + droppedBy more := by
  simp only [droppedBy, ledgersOf_append, List.filterMap_append, List.map_append, List.sum_append]
  exact Nat.add_add_add_comm _ _ _ _

theorem aborts_append : aborts (calls ++ more) = aborts calls + aborts more := by
  simp only [aborts, abortedOf_append, List.filterMap_append, List.countP_append]
  exact Nat.add_add_add_comm _ _ _ _

end Append

/-! ### What the counters show -/

/-- The counters show so many successful passes, with so many transfers dropped in all, and so many
aborted passes. They have 64 bits. -/
structure Counts (metrics : Metrics) (successes dropped aborts : ℕ) : Prop where
  reconciliations : metrics.reconciliations.toNat = successes % 2 ^ 64
  observations : metrics.durations.observations.toNat = successes % 2 ^ 64
  dropped : metrics.dropped.toNat = dropped % 2 ^ 64
  failures : metrics.failures.toNat = aborts % 2 ^ 64

theorem counts_empty : empty.Counts 0 0 0 :=
  ⟨rfl, rfl, rfl, rfl⟩

/-- A counter goes on from the number it shows, also when it wraps around. -/
theorem toNat_add_ofNat {counter : UInt64} {shown : ℕ} (h : counter.toNat = shown % 2 ^ 64)
    (more : ℕ) : (counter + UInt64.ofNat more).toNat = (shown + more) % 2 ^ 64 := by
  rw [UInt64.toNat_add, h, UInt64.toNat_ofNat', ← Nat.add_mod]

section Step

variable {metrics : Metrics} {passes dropped failed : ℕ}

theorem Counts.record (h : metrics.Counts passes dropped failed) (more : ℕ) (seconds : Float) :
    (metrics.record more seconds).Counts (passes + 1) (dropped + more) failed where
  reconciliations := toNat_add_ofNat h.reconciliations 1
  observations := toNat_add_ofNat h.observations 1
  dropped := toNat_add_ofNat h.dropped more
  failures := h.failures

theorem Counts.recordFailure (h : metrics.Counts passes dropped failed) :
    metrics.recordFailure.Counts passes dropped (failed + 1) where
  reconciliations := h.reconciliations
  observations := h.observations
  dropped := h.dropped
  failures := toNat_add_ofNat h.failures 1

/-- A pass with the collector attached counts as successful with what its ledger dropped, or as
aborted if it makes no ledger. -/
theorem Counts.attached (h : metrics.Counts passes dropped failed) (transfers : Transfers)
    (seconds : Float) :
    (metrics.perform (.attached transfers seconds)).2.Counts
      (passes + (ledgersOf [transfers]).length)
      (dropped + ((ledgersOf [transfers]).map Ledger.dropped).sum)
      (failed + abortedOf [transfers]) := by
  simp only [perform, pass, ledgersOf, abortedOf, List.filterMap_cons, List.filterMap_nil,
    List.countP_singleton]
  cases transfers.reconcile with
  | ok ledger => exact h.record ledger.dropped seconds
  | error fault => exact h.recordFailure

/-- A pass without a collector leaves every collector as it is. -/
theorem perform_plain (metrics : Metrics) (transfers : Transfers) (seconds : Float) :
    (metrics.perform (.plain transfers seconds)).2 = metrics := by
  simp only [perform, pass]
  cases transfers.reconcile <;> rfl

/-- A call moves the counters by what it counts. -/
theorem Counts.perform (h : metrics.Counts passes dropped failed) (call : Call) :
    (metrics.perform call).2.Counts (passes + successes [call]) (dropped + droppedBy [call])
      (failed + aborts [call]) := by
  cases call with
  | attached transfers seconds => exact h.attached transfers seconds
  | plain transfers seconds =>
    rw [perform_plain]
    exact h
  | record more seconds =>
    have hdropped : droppedBy [.record more seconds] = more := Nat.zero_add more
    rw [hdropped]
    exact h.record more seconds
  | recordFailure => exact h.recordFailure

end Step

/-! ### Calls one after another -/

/-- The outcome of a pass is that of reconciliation, with any collector and without one. -/
theorem pass_outcome (collector : Option Metrics) (transfers : Transfers) (seconds : Float) :
    (pass collector transfers seconds).1 =
      reconcile transfers.chainTransfers transfers.transfersIn := by
  rw [pass, Transfers.reconcile]
  cases reconcile transfers.chainTransfers transfers.transfersIn <;> rfl

theorem perform_outcome (metrics : Metrics) (call : Call) :
    (metrics.perform call).1 = call.transfers?.map fun transfers ↦
      reconcile transfers.chainTransfers transfers.transfersIn := by
  cases call with
  | attached transfers seconds =>
    exact congrArg some (pass_outcome (some metrics) transfers seconds)
  | plain transfers seconds => exact congrArg some (pass_outcome none transfers seconds)
  | record dropped seconds => rfl
  | recordFailure => rfl

/-- Whatever the collector has counted, every pass among calls has the outcome of reconciliation. -/
theorem performAll_outcomes (metrics : Metrics) (calls : List Call) :
    (metrics.performAll calls).1 = calls.map fun call ↦ call.transfers?.map fun transfers ↦
      reconcile transfers.chainTransfers transfers.transfersIn := by
  induction calls generalizing metrics with
  | nil => rfl
  | cons call calls ih =>
    simp only [performAll]
    rw [ih, perform_outcome, List.map_cons]

theorem performAll_collector (metrics : Metrics) (calls : List Call) :
    (metrics.performAll calls).2 =
      calls.foldl (fun metrics call ↦ (metrics.perform call).2) metrics := by
  induction calls generalizing metrics with
  | nil => rfl
  | cons call calls ih => exact ih _

/-- After any calls in any order the counters of a new collector show what the calls count. -/
theorem counts_performAll (calls : List Call) :
    (empty.performAll calls).2.Counts (successes calls) (droppedBy calls) (aborts calls) := by
  rw [performAll_collector]
  induction calls using List.reverseRecOn with
  | nil => exact counts_empty
  | append_singleton calls call ih =>
    rw [List.foldl_append, successes_append, droppedBy_append, aborts_append]
    exact ih.perform call

/-- A pass without a collector can be left out. -/
theorem performAll_filter (calls : List Call) (metrics : Metrics) :
    (metrics.performAll (calls.filter (!·.isPlain))).2 = (metrics.performAll calls).2 := by
  rw [performAll_collector, performAll_collector, List.foldl_filter]
  refine List.foldl_ext _ _ metrics fun metrics call _ ↦ ?_
  cases call with
  | plain transfers seconds => exact (perform_plain metrics transfers seconds).symm
  | attached | record | recordFailure => rfl

/-- After any calls in any order, every reconciliation among them has given what it gives without a
collector, whatever the collector had counted before, and the counters of a new collector show,
modulo `2 ^ 64`, the passes that succeeded or were told of, the transfers these dropped, and the
passes that were aborted or told of as such. Passes without the collector change nothing. A visit of
a monitor makes one call for the transfers it has fetched; when it has none, as for a body that
cannot be decoded, the collector stays. What comes of the visit is the same whatever the collector
has counted. -/
theorem counters_follow_calls (calls : List Call) :
    (∀ metrics : Metrics, (metrics.performAll calls).1 =
        calls.map (fun call ↦ call.transfers?.map fun transfers ↦
          reconcile transfers.chainTransfers transfers.transfersIn)) ∧
      (empty.performAll calls).2.Counts (successes calls) (droppedBy calls) (aborts calls) ∧
      (∀ metrics : Metrics,
        (metrics.performAll (calls.filter (!·.isPlain))).2 = (metrics.performAll calls).2) ∧
      (∀ (monitor : Monitor) occasion account state,
        (monitor.refresh occasion account state).state.metrics =
          (state.metrics.performAll
            ((Backend.fetch monitor.client occasion.backend account).outcome.toOption.map
              (Call.attached · occasion.seconds)).toList).2) ∧
      ∀ (monitor : Monitor) occasion account state (other : Metrics),
        (monitor.refresh occasion account { state with metrics := other }).outcome =
          (monitor.refresh occasion account state).outcome := by
  refine ⟨fun metrics ↦ performAll_outcomes metrics calls, counts_performAll calls,
    performAll_filter calls, Monitor.refresh_metrics, ?_⟩
  intro monitor occasion account state other
  rw [Monitor.refresh_outcome, Monitor.refresh_outcome]

end RunningBalance.Metrics
