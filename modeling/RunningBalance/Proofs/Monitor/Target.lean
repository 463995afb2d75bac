import RunningBalance.Proofs.Monitor.Round

/-!
# The metrics target

Where metrics are left is looked at once, after the visits of a round (`Monitor.finish`). So a run
does what it does with metrics left nowhere, step by step, up to two things: what the metrics file
holds, and the complaint that a round makes at its end if the file cannot be written
(`run_exposing`). `target_reaches_file_and_complaint` compares the three targets over whole runs.
-/

set_option autoImplicit false
set_option relaxedAutoImplicit false

namespace RunningBalance.Monitor

/-- The monitor with another place for its metrics. -/
def withTarget (monitor : Monitor) (target : MetricsTarget) : Monitor :=
  { monitor with metricsTarget := target }

theorem withTarget_self (monitor : Monitor) : monitor.withTarget monitor.metricsTarget = monitor :=
  rfl

/-! ### Another metrics file -/

/-- The state where the metrics file holds something else. -/
def State.exposing (exposed : Option String) (state : State) : State :=
  { state with exposed }

theorem State.exposing_self (state : State) : state.exposing state.exposed = state :=
  rfl

/-- The visit where the metrics file holds something else. -/
def Visit.exposing (exposed : Option String) (visit : Visit) : Visit :=
  { visit with state := visit.state.exposing exposed }

/-- The round where the metrics file holds something else. -/
def Round.exposing (exposed : Option String) (round : Round) : Round :=
  { round with state := round.state.exposing exposed }

/-- The report where the metrics file holds something else. -/
def Report.exposing (exposed : Option String) (report : Report) : Report :=
  { report with state := report.state.exposing exposed }

/-! ### The end of a round -/

/-- Whether a report is that of a round which has come to its end: no document has ended it. -/
def Report.isRound (step : Step) (report : Report) : Bool :=
  match step.action, report.result with
  | .one _, _ => false
  | .all, .aborted => false
  | .all, _ => true

/-- The report with a complaint after all others, if there is one and the report is that of a round
which has come to its end. -/
def Report.complaining (complaint? : Option Complaint) (step : Step) (report : Report) : Report :=
  if report.isRound step then
    { report with complaints := report.complaints ++ complaint?.toList }
  else report

theorem Report.isRound_iff {step : Step} {report : Report} :
    report.isRound step = true ↔ step.action = .all ∧ report.result ≠ .aborted := by
  obtain ⟨action, occasions⟩ := step
  obtain ⟨result, printed, complaints, requests, state⟩ := report
  cases action <;> cases result <;> simp [isRound]

theorem Report.state_complaining (complaint? : Option Complaint) (step : Step) (report : Report) :
    (report.complaining complaint? step).state = report.state := by
  rw [complaining]
  split <;> rfl

section Visits

variable {monitor : Monitor} {target : MetricsTarget} (exposed : Option String)

/-- A visit looks neither at the metrics target nor at the metrics file. -/
theorem refresh_exposing (occasion : Occasion) (account : Account) (state : State) :
    (monitor.withTarget target).refresh occasion account (state.exposing exposed) =
      (monitor.refresh occasion account state).exposing exposed := by
  rw [refresh_eq, refresh_eq]
  simp only [withTarget]
  generalize Backend.fetch monitor.client occasion.backend account = exchange
  obtain ⟨fault | transfers, requests⟩ := exchange
  · rfl
  · simp only [Visit.ofExchange, settle, Metrics.pass]
    cases transfers.reconcile <;> rfl

theorem visit_exposing (inquiry : Inquiry) (round : Round) :
    (monitor.withTarget target).visit (round.exposing exposed) inquiry =
      (monitor.visit round inquiry).exposing exposed := by
  obtain ⟨state, requests, printed, complaints, failures, aborted⟩ := round
  cases aborted with
  | true => rfl
  | false =>
    simp only [visit, Round.exposing, Bool.false_eq_true, if_false]
    rw [refresh_exposing]
    generalize monitor.refresh inquiry.occasion inquiry.account state = visit
    obtain ⟨fault | _ | ledger, received, left⟩ := visit
    · rfl
    · rfl
    · simp only [Round.after, Visit.exposing, withTarget]
      cases ledger.render? inquiry.account monitor.display <;> rfl

theorem visits_exposing (round : Round) (inquiries : List Inquiry) :
    (monitor.withTarget target).visits (round.exposing exposed) inquiries =
      (monitor.visits round inquiries).exposing exposed := by
  induction inquiries generalizing round with
  | nil => rfl
  | cons inquiry inquiries ih => rw [visits_cons, visits_cons, visit_exposing, ih]

/-- Visits are the same wherever the metrics are left. -/
theorem visits_withTarget (round : Round) (inquiries : List Inquiry) :
    (monitor.withTarget target).visits round inquiries = monitor.visits round inquiries :=
  have hother := @visits_exposing monitor target round.state.exposed round inquiries
  have hself := @visits_exposing monitor monitor.metricsTarget round.state.exposed round inquiries
  hother.trans hself.symm

end Visits

/-! ### Steps and runs -/

section Runs

variable (monitor : Monitor) (exposed : Option String)

/-- With metrics left nowhere, the end of a round leaves it as it is. -/
theorem finish_nowhere (round : Round) : (monitor.withTarget .nowhere).finish round = round :=
  ite_self round

/-- The report of a round tells whether a document has ended the round. -/
theorem isRound_roundReport {monitor : Monitor} {step : Step} (hall : step.action = .all)
    {round : Round} :
    (monitor.roundReport round).isRound step = true ↔ round.aborted = false := by
  simp only [Report.isRound_iff, roundReport, ne_eq, roundResult_eq_aborted_iff, hall, true_and,
    Bool.not_eq_true]

/-- The end of a round adds its complaint, whatever the visits have come to: how the round ends is
decided by them alone. -/
theorem roundReport_exposing {step : Step} (hall : step.action = .all) (round : Round) :
    (monitor.roundReport (monitor.finish round)).exposing exposed =
      ((monitor.withTarget .nowhere).roundReport (round.exposing exposed)).complaining
        monitor.metricsComplaint? step := by
  obtain ⟨action, occasions⟩ := step
  subst hall
  obtain ⟨state, requests, printed, complaints, failures, aborted⟩ := round
  cases aborted with
  | true => rfl
  | false =>
    rw [Report.complaining, if_pos ((isRound_roundReport rfl).2 rfl)]
    simp only [finish, metricsComplaint?, Bool.false_eq_true, if_false]
    cases monitor.metricsTarget with
    | nowhere | file =>
      simp only [Option.toList_none, List.append_nil]
      rfl
    | unwritable path cause => rfl

/-- A step does what it does with metrics left nowhere, but for its complaint about them and for
what the metrics file holds. -/
theorem report_exposing (state : State) (step : Step) :
    (monitor.report state step).exposing exposed =
      ((monitor.withTarget .nowhere).report (state.exposing exposed) step).complaining
        monitor.metricsComplaint? step := by
  obtain ⟨action, occasions⟩ := step
  cases action with
  | one account =>
    simp only [report, refresh_exposing]
    generalize monitor.refresh (occasions 0) account state = visit
    rfl
  | all =>
    simp only [report]
    rw [refreshAll_eq_finish, refreshAll_eq_finish, finish_nowhere]
    have hvisits : (monitor.withTarget .nowhere).visits { state := state.exposing exposed }
        ((monitor.withTarget .nowhere).roundInquiries occasions) =
          (monitor.visits { state } (monitor.roundInquiries occasions)).exposing exposed :=
      visits_exposing exposed { state } (monitor.roundInquiries occasions)
    rw [hvisits]
    exact roundReport_exposing monitor exposed rfl _

theorem run_exposing (state : State) (steps : List Step) :
    (monitor.run state steps).map (Report.exposing exposed) =
      List.zipWith (Report.complaining monitor.metricsComplaint?) steps
        ((monitor.withTarget .nowhere).run (state.exposing exposed) steps) := by
  induction steps generalizing state with
  | nil => rfl
  | cons step steps ih =>
    have hstate : ((monitor.withTarget .nowhere).report (state.exposing exposed) step).state =
        (monitor.report state step).state.exposing exposed := by
      rw [← Report.state_complaining, ← report_exposing]
      rfl
    rw [run, run, List.map_cons, List.zipWith_cons_cons, ih, report_exposing, hstate]

theorem length_run (state : State) (steps : List Step) :
    (monitor.run state steps).length = steps.length := by
  induction steps generalizing state with
  | nil => rfl
  | cons step steps ih => rw [run, List.length_cons, List.length_cons, ih]

section Unwritten

variable {monitor} (hfile : ∀ path, monitor.metricsTarget ≠ .file path)

include hfile

theorem exposed_finish (round : Round) :
    (monitor.finish round).state.exposed = round.state.exposed := by
  rw [finish]
  split
  · rfl
  · split
    · rfl
    · next path htarget => exact (hfile path htarget).elim
    · rfl

/-- A step leaves what the metrics file holds if metrics are not left in a file. -/
theorem exposed_report (state : State) (step : Step) :
    (monitor.report state step).state.exposed = state.exposed := by
  rw [report]
  cases step.action with
  | one account =>
    simp only [Visit.report]
    exact refresh_exposed monitor (step.occasions 0) account state
  | all =>
    -- Visits that are made where the file holds what it holds leave it so.
    have hvisits := @visits_exposing monitor monitor.metricsTarget state.exposed { state }
      (monitor.roundInquiries step.occasions)
    rw [withTarget_self, Round.exposing, State.exposing_self] at hvisits
    simp only [roundReport]
    rw [refreshAll_eq_finish, exposed_finish hfile, hvisits, Round.exposing, State.exposing]

theorem exposed_run (state : State) (steps : List Step) :
    ∀ report ∈ monitor.run state steps, report.state.exposed = state.exposed := by
  induction steps generalizing state with
  | nil => exact List.forall_mem_nil _
  | cons step steps ih =>
    have hstep := exposed_report hfile state step
    refine List.forall_mem_cons.2 ⟨hstep, fun report hreport ↦ ?_⟩
    exact (ih _ report hreport).trans hstep

theorem run_exposing_self (state : State) (steps : List Step) :
    (monitor.run state steps).map (Report.exposing state.exposed) = monitor.run state steps := by
  refine (List.map_congr_left fun report hreport ↦ ?_).trans (List.map_id _)
  rw [← exposed_run hfile state steps report hreport]
  rfl

end Unwritten

end Runs

/-- The same run with metrics left nowhere, in a file, and at a path that cannot be written. With a
file the reports are those of the run without metrics, but for what the file holds: the results, the
stored ledgers, the documents, the requests and the complaints are the same. At a path that cannot
be written they are the same and the file is left alone; all that is added is a complaint about the
path, after all other complaints of each round that comes to its end, and it has no part in how the
round ends. A round that a document ends, because it cannot be rendered, does not come to leave
metrics in any of the three. -/
theorem target_reaches_file_and_complaint (monitor : Monitor) (state : State) (steps : List Step)
    (path path' cause : String) :
    let silent := (monitor.withTarget .nowhere).run state steps
    let filed := (monitor.withTarget (.file path)).run state steps
    let hindered := (monitor.withTarget (.unwritable path' cause)).run state steps
    silent.length = steps.length ∧
      (∀ report ∈ silent, report.state.exposed = state.exposed) ∧
      filed.map (Report.exposing none) = silent.map (Report.exposing none) ∧
      hindered =
        List.zipWith (Report.complaining (some (.metrics path' cause))) steps silent ∧
      (Complaint.metrics path' cause).explanation =
        "Failed to write metrics to " ++ path' ++ ": " ++ cause := by
  intro silent filed hindered
  have hsilent : ∀ report ∈ silent, report.state.exposed = state.exposed :=
    exposed_run (fun _ ↦ MetricsTarget.noConfusion) state steps
  have hfiled : filed.map (Report.exposing none) = silent.map (Report.exposing none) :=
    (run_exposing (monitor.withTarget (.file path)) none state steps).trans
      (run_exposing (monitor.withTarget .nowhere) none state steps).symm
  have hhindered : hindered.map (Report.exposing state.exposed) = hindered :=
    run_exposing_self (fun _ ↦ MetricsTarget.noConfusion) state steps
  rw [run_exposing] at hhindered
  exact ⟨length_run _ state steps, hsilent, hfiled, hhindered.symm, rfl⟩

end RunningBalance.Monitor
