import RunningBalance.Proofs.Decimal
import RunningBalance.Proofs.Monitor.Journal

/-!
# What a round shows

A round visits all accounts in their order, whatever fails on the way. What its visits find, each
where the visits before it have left the stored ledgers, is listed by `Monitor.roundFindings`
(`areFindings_roundFindings`), and it decides all that the round shows: the documents are those of
the ledgers found changed (`printed_visits`), and the complaints are those about the visits that
failed (`complaints_visits`). Where one backend answers throughout, an account is found changed at
its first visit only (`AreAnswered`).

`refreshAll_shows_every_account` puts this together for a round that no document ends. The round
fails exactly if there are accounts and all visits failed; metrics that cannot be written are
complained about and count for nothing.
-/

set_option autoImplicit false
set_option relaxedAutoImplicit false

namespace RunningBalance

namespace Monitor

/-! ### Findings -/

/-- What a visit to an account finds: its ledger if that has changed, none if it has not, or why
the visit failed. -/
structure Finding where
  account : Account
  outcome : Except Fault (Option Ledger)

namespace Finding

def change? (finding : Finding) : Option (Account × Ledger) :=
  match finding.outcome with
  | .ok (some ledger) => some (finding.account, ledger)
  | _ => none

def complaint? (finding : Finding) : Option Complaint :=
  match finding.outcome with
  | .error fault => some (.visit finding.account fault)
  | .ok _ => none

theorem change?_eq_some_iff {finding : Finding} {change : Account × Ledger} :
    finding.change? = some change ↔
      finding.account = change.1 ∧ finding.outcome = .ok (some change.2) := by
  obtain ⟨account, fault | _ | ledger⟩ := finding <;> simp [change?, Prod.ext_iff]

theorem complaint?_isSome_iff {finding : Finding} :
    finding.complaint?.isSome ↔ ∃ fault, finding.outcome = .error fault := by
  rw [complaint?]
  cases finding.outcome <;> simp

end Finding

/-- The document about a ledger that has changed, with its account. -/
def rendering (display : Display) (change : Account × Ledger) : Account × Option String :=
  (change.1, change.2.render? change.1 display)

variable (monitor : Monitor)

/-- What a visit finds where a state holds. -/
def finding (inquiry : Inquiry) (state : State) : Finding where
  account := inquiry.account
  outcome := (monitor.refresh inquiry.occasion inquiry.account state).outcome

@[simp] theorem finding_account (inquiry : Inquiry) (state : State) :
    (monitor.finding inquiry state).account = inquiry.account :=
  rfl

@[simp] theorem finding_outcome (inquiry : Inquiry) (state : State) :
    (monitor.finding inquiry state).outcome =
      (monitor.refresh inquiry.occasion inquiry.account state).outcome := by
  simp only [finding]

/-- What the visits of a round find, as long as nothing has ended it. -/
def roundFindings : Round → List Inquiry → List Finding
  | _, [] => []
  | round, inquiry :: inquiries =>
    if round.aborted then []
    else
      monitor.finding inquiry round.state ::
        roundFindings (monitor.visit round inquiry) inquiries

/-- The complaint that metrics cannot be written. -/
def metricsComplaint? : Option Complaint :=
  match monitor.metricsTarget with
  | .unwritable path cause => some (.metrics path cause)
  | _ => none

theorem roundFindings_cons {round : Round} (haborted : round.aborted = false) (inquiry : Inquiry)
    (inquiries : List Inquiry) :
    monitor.roundFindings round (inquiry :: inquiries) =
      monitor.finding inquiry round.state ::
        monitor.roundFindings (monitor.visit round inquiry) inquiries := by
  rw [roundFindings, if_neg (ne_true_of_eq_false haborted)]

/-! ### One visit -/

section Visit

variable {monitor} {round : Round} {inquiry : Inquiry}

/-- A visit does not undo the end of a round. -/
theorem aborted_of_visit (haborted : (monitor.visit round inquiry).aborted = false) :
    round.aborted = false := by
  by_contra hround
  rw [Bool.not_eq_false] at hround
  rw [visit_of_aborted hround, hround] at haborted
  cases haborted

/-- What a visit adds to a round that it does not end: the document about the ledger found changed,
or the complaint about the failure, which counts. -/
theorem visit_shows (haborted : (monitor.visit round inquiry).aborted = false) :
    (monitor.visit round inquiry).printed.map (Prod.map id some) =
        round.printed.map (Prod.map id some) ++
          (monitor.finding inquiry round.state).change?.toList.map (rendering monitor.display) ∧
      (monitor.visit round inquiry).complaints = round.complaints ++
        (monitor.finding inquiry round.state).complaint?.toList ∧
      (monitor.visit round inquiry).failures = round.failures +
        (monitor.finding inquiry round.state).complaint?.toList.length := by
  have hround := aborted_of_visit haborted
  revert haborted
  rw [visit_eq_after hround, finding]
  generalize monitor.refresh inquiry.occasion inquiry.account round.state = visit
  obtain ⟨fault | _ | ledger, requests, state⟩ := visit
  · intro _
    simp [Round.after, Finding.change?, Finding.complaint?]
  · intro _
    simp [Round.after, Finding.change?, Finding.complaint?]
  · cases hdocument : ledger.render? inquiry.account monitor.display with
    | none =>
      intro haborted
      simp [Round.after, hdocument] at haborted
    | some document =>
      intro _
      simp [Round.after, hdocument, Finding.change?, Finding.complaint?, rendering]

end Visit

/-! ### All visits -/

section Visits

variable {monitor} {round : Round} {inquiries : List Inquiry}

/-- A round goes on if every ledger can be rendered. -/
theorem visits_aborted_eq_false
    (hrender : ∀ account ledger, (Ledger.render? account ledger monitor.display).isSome)
    (haborted : round.aborted = false) : (monitor.visits round inquiries).aborted = false := by
  induction inquiries generalizing round with
  | nil => exact haborted
  | cons inquiry inquiries ih =>
    rw [visits_cons]
    refine ih ?_
    rw [visit_eq_after haborted]
    generalize monitor.refresh inquiry.occasion inquiry.account round.state = visit
    obtain ⟨fault | _ | ledger, requests, state⟩ := visit
    · exact haborted
    · exact haborted
    · obtain ⟨document, hdocument⟩ := Option.isSome_iff_exists.1 (hrender inquiry.account ledger)
      simp [Round.after, hdocument, haborted]

/-- What each visit adds to what is shown adds up over a round that nothing ends. -/
theorem shown_visits {α : Type*} (shown : Round → List α) (added : Finding → List α)
    (hvisit : ∀ round inquiry, (monitor.visit round inquiry).aborted = false →
      shown (monitor.visit round inquiry) =
        shown round ++ added (monitor.finding inquiry round.state))
    (haborted : (monitor.visits round inquiries).aborted = false) :
    shown (monitor.visits round inquiries) =
      shown round ++ (monitor.roundFindings round inquiries).flatMap added := by
  induction inquiries generalizing round with
  | nil => simp [visits, roundFindings]
  | cons inquiry inquiries ih =>
    rw [visits_cons] at haborted ⊢
    have hvisited := aborted_of_visits haborted
    rw [ih haborted, hvisit round inquiry hvisited,
      roundFindings_cons monitor (aborted_of_visit hvisited), List.flatMap_cons,
      List.append_assoc]

/-- The documents of a round are those of the ledgers found changed. -/
theorem printed_visits (haborted : (monitor.visits round inquiries).aborted = false) :
    (monitor.visits round inquiries).printed.map (Prod.map id some) =
      round.printed.map (Prod.map id some) ++
        ((monitor.roundFindings round inquiries).filterMap Finding.change?).map
          (rendering monitor.display) := by
  rw [List.filterMap_eq_flatMap_toList, List.map_flatMap]
  exact shown_visits (fun round ↦ round.printed.map (Prod.map id some))
    (fun finding ↦ finding.change?.toList.map (rendering monitor.display))
    (fun _ _ hvisited ↦ (visit_shows hvisited).1) haborted

/-- The complaints of a round are those about the visits that failed. -/
theorem complaints_visits (haborted : (monitor.visits round inquiries).aborted = false) :
    (monitor.visits round inquiries).complaints = round.complaints ++
      (monitor.roundFindings round inquiries).filterMap Finding.complaint? := by
  rw [List.filterMap_eq_flatMap_toList]
  exact shown_visits Round.complaints (fun finding ↦ finding.complaint?.toList)
    (fun _ _ hvisited ↦ (visit_shows hvisited).2.1) haborted

/-- The failures that a round counts are those it complains about. -/
theorem failures_visits (haborted : (monitor.visits round inquiries).aborted = false)
    (hround : round.failures = round.complaints.length) :
    (monitor.visits round inquiries).failures =
      (monitor.visits round inquiries).complaints.length := by
  induction inquiries generalizing round with
  | nil => exact hround
  | cons inquiry inquiries ih =>
    rw [visits_cons] at haborted ⊢
    obtain ⟨-, hcomplaints, hfailures⟩ := visit_shows (aborted_of_visits haborted)
    refine ih haborted ?_
    rw [hfailures, hcomplaints, List.length_append, hround]

end Visits

/-! ### What visits find -/

/-- Findings of visits, each where the visits before it have left the ledgers: a visit fails where
the answer does, and it finds the ledger that the answer makes changed unless that is stored. -/
inductive AreFindings : (Account → Option Ledger) → List Inquiry → List Finding → Prop
  | nil {ledgers : Account → Option Ledger} : AreFindings ledgers [] []
  | cons {ledgers : Account → Option Ledger} {inquiry : Inquiry} {inquiries : List Inquiry}
      {finding : Finding} {findings : List Finding}
      (haccount : finding.account = inquiry.account)
      (hfailed : ∀ fault, finding.outcome = .error fault ↔
        monitor.Answers inquiry.occasion.backend inquiry.account (.error fault))
      (hchanged : ∀ ledger, finding.outcome = .ok (some ledger) ↔
        monitor.Answers inquiry.occasion.backend inquiry.account (.ok ledger) ∧
          ledgers inquiry.account ≠ some ledger)
      (hlater : AreFindings (monitor.store ledgers inquiry) inquiries findings) :
      AreFindings ledgers (inquiry :: inquiries) (finding :: findings)

/-- Findings of visits that one backend answers: a visit fails where the answer does, and it finds
the ledger that the answer makes changed if that was not stored before the visits and no earlier
visit was to the account. -/
structure AreAnswered (backend : Backend) (ledgers : Account → Option Ledger)
    (findings : List Finding) : Prop where
  failed : ∀ finding ∈ findings, ∀ fault, finding.outcome = .error fault ↔
    monitor.Answers backend finding.account (.error fault)
  changed : ∀ before finding after, findings = before ++ finding :: after → ∀ ledger,
    finding.outcome = .ok (some ledger) ↔
      monitor.Answers backend finding.account (.ok ledger) ∧
        ledgers finding.account ≠ some ledger ∧
        finding.account ∉ before.map Finding.account

section Findings

variable {monitor} {ledgers : Account → Option Ledger} {inquiries : List Inquiry}
  {findings : List Finding}

/-- What the visits of a round find that nothing ends. -/
theorem areFindings_roundFindings {round : Round}
    (haborted : (monitor.visits round inquiries).aborted = false) :
    monitor.AreFindings round.state.ledgers inquiries (monitor.roundFindings round inquiries) := by
  induction inquiries generalizing round with
  | nil => exact .nil
  | cons inquiry inquiries ih =>
    have hround := aborted_of_visits haborted
    rw [roundFindings_cons monitor hround]
    refine .cons (finding_account monitor inquiry round.state) ?_ ?_ ?_
    · intro fault
      rw [finding_outcome]
      exact refresh_failed_iff monitor inquiry.occasion inquiry.account round.state
    · intro ledger
      rw [finding_outcome]
      exact refresh_changed_iff monitor inquiry.occasion inquiry.account round.state
    · have hlater := ih haborted
      rwa [(visit_of_not_aborted hround).1, refresh_ledgers] at hlater

theorem AreFindings.account (hfindings : monitor.AreFindings ledgers inquiries findings) :
    findings.map Finding.account = inquiries.map Inquiry.account := by
  induction hfindings with
  | nil => rfl
  | cons haccount _ _ _ ih => rw [List.map_cons, List.map_cons, haccount, ih]

/-- There is one finding for each account, in their order. -/
theorem AreFindings.account_roundInquiries {occasions : ℕ → Occasion}
    (hfindings : monitor.AreFindings ledgers (monitor.roundInquiries occasions) findings) :
    findings.map Finding.account = monitor.accounts := by
  rw [hfindings.account, Monitor.account_roundInquiries]

section OneBackend

variable {backend : Backend}
variable (hbackend : ∀ inquiry ∈ inquiries, inquiry.occasion.backend = backend)
variable (hfindings : monitor.AreFindings ledgers inquiries findings)

include hbackend hfindings

theorem AreFindings.failed_iff {finding : Finding} (hmem : finding ∈ findings) (fault : Fault) :
    finding.outcome = .error fault ↔
      monitor.Answers backend finding.account (.error fault) := by
  induction hfindings with
  | nil => cases hmem
  | @cons ledgers inquiry inquiries found findings haccount hfailed hchanged hlater ih =>
    rw [List.forall_mem_cons] at hbackend
    rcases List.mem_cons.1 hmem with rfl | hmem
    · rw [hfailed, hbackend.1, haccount]
    · exact ih hbackend.2 hmem

theorem AreFindings.changed_iff_of_split {before after : List Finding} {finding : Finding}
    (hsplit : findings = before ++ finding :: after) (ledger : Ledger) :
    finding.outcome = .ok (some ledger) ↔
      monitor.Answers backend finding.account (.ok ledger) ∧
        ledgers finding.account ≠ some ledger ∧
        finding.account ∉ before.map Finding.account := by
  induction hfindings generalizing before with
  | nil => simp at hsplit
  | @cons ledgers inquiry inquiries found findings haccount hfailed hchanged hlater ih =>
    rw [List.forall_mem_cons] at hbackend
    cases before with
    | nil =>
      obtain ⟨rfl, -⟩ := List.cons.inj hsplit
      simp only [List.map_nil, List.not_mem_nil, not_false_eq_true, and_true]
      rw [hchanged, hbackend.1, haccount]
    | cons first before =>
      obtain ⟨rfl, hrest⟩ := List.cons.inj hsplit
      rw [ih hbackend.2 hrest, List.map_cons, List.mem_cons, haccount, store, hbackend.1]
      refine and_congr_right fun hanswer ↦ ?_
      by_cases hasked : finding.account = inquiry.account
      · -- The earlier visit to the account has stored the ledger that this one makes.
        have hstored : stored ledgers inquiry.account (monitor.reading backend inquiry.account)
            finding.account = some ledger := by
          rw [← hasked, answers_iff.1 hanswer, stored, Function.update_self]
        exact iff_of_false (fun hnew ↦ hnew.1 hstored) fun hnew ↦ hnew.2 (.inl hasked)
      · rw [stored_of_ne hasked, not_or]
        exact and_congr_right fun _ ↦ (and_iff_right hasked).symm

/-- What visits find that one backend answers. -/
theorem AreFindings.areAnswered : monitor.AreAnswered backend ledgers findings where
  failed _ hmem := hfindings.failed_iff hbackend hmem
  changed _ _ _ hsplit := hfindings.changed_iff_of_split hbackend hsplit

end OneBackend

/-- The visits of a round meet the one backend that answers throughout. -/
theorem backend_of_mem_roundInquiries {backend : Backend} {occasions : ℕ → Occasion}
    (hbackend : ∀ place, (occasions place).backend = backend) :
    ∀ inquiry ∈ monitor.roundInquiries occasions, inquiry.occasion.backend = backend := by
  intro inquiry hmem
  obtain ⟨place, hplace⟩ := exists_occasion_of_mem hmem
  rw [hplace, hbackend]

end Findings

/-! ### The end of a round -/

section End

variable {round : Round}

theorem finish_aborted (round : Round) : (monitor.finish round).aborted = round.aborted := by
  unfold finish
  split
  · rfl
  · split <;> rfl

/-- At the end of a round nothing is added but the complaint about the metrics. -/
theorem finish_shows (haborted : round.aborted = false) :
    (monitor.finish round).printed = round.printed ∧
      (monitor.finish round).complaints = round.complaints ++ monitor.metricsComplaint?.toList ∧
      (monitor.finish round).failures = round.failures := by
  unfold finish metricsComplaint?
  rw [if_neg (ne_true_of_eq_false haborted)]
  cases monitor.metricsTarget <;> simp

theorem roundResult_eq_aborted_iff :
    monitor.roundResult round = .aborted ↔ round.aborted = true := by
  unfold roundResult
  split
  · simp_all
  · split <;> simp_all

/-- A round does not fail as a visit does. -/
theorem roundResult_ne_failed {fault : Fault} : monitor.roundResult round ≠ .failed fault := by
  unfold roundResult
  split
  · exact Result.noConfusion
  · split <;> exact Result.noConfusion

/-- No step is ended if every ledger can be rendered. -/
theorem result_ne_aborted
    (hrender : ∀ account ledger, (Ledger.render? account ledger monitor.display).isSome)
    (state : State) (step : Step) : (monitor.report state step).result ≠ .aborted := by
  rw [report]
  cases step.action with
  | one account =>
    simp only [Visit.report, Visit.result]
    split <;> exact Result.noConfusion
  | all =>
    simp only [roundReport]
    rw [ne_eq, roundResult_eq_aborted_iff, refreshAll_eq_finish, finish_aborted,
      visits_aborted_eq_false hrender rfl]
    exact Bool.noConfusion

theorem results_ne_aborted
    (hrender : ∀ account ledger, (Ledger.render? account ledger monitor.display).isSome)
    (state : State) (steps : List Step) :
    ∀ report ∈ monitor.run state steps, report.result ≠ .aborted := by
  induction steps generalizing state with
  | nil => exact List.forall_mem_nil _
  | cons step steps ih =>
    exact List.forall_mem_cons.2 ⟨result_ne_aborted monitor hrender state step, ih _⟩

/-- A round that nothing ends fails with the number of all accounts, or it has refreshed. -/
theorem roundResult_of_not_aborted (haborted : round.aborted = false) :
    (∀ count, monitor.roundResult round = .allFailed count ↔
        count = monitor.accounts.length ∧ monitor.allFailed round = true) ∧
      (monitor.roundResult round = .refreshed ↔ ¬monitor.allFailed round = true) := by
  unfold roundResult
  rw [if_neg (ne_true_of_eq_false haborted)]
  cases hall : monitor.allFailed round with
  | true =>
    simp only [allFailed, Bool.and_eq_true, decide_eq_true_eq] at hall
    simp [hall.2, eq_comm]
  | false => simp

/-- All visits failed if there were visits and each of them failed. -/
theorem allFailed_iff {findings : List Finding}
    (haccount : findings.map Finding.account = monitor.accounts)
    (hfailures : round.failures = (findings.filterMap Finding.complaint?).length) :
    monitor.allFailed round = true ↔ monitor.accounts ≠ [] ∧
      ∀ finding ∈ findings, ∃ fault, finding.outcome = .error fault := by
  have hlength : monitor.accounts.length = findings.length := by
    rw [← haccount, List.length_map]
  have hall : round.failures = monitor.accounts.length ↔
      ∀ finding ∈ findings, ∃ fault, finding.outcome = .error fault := by
    rw [hfailures, hlength, List.filterMap_length_eq_length]
    simp only [Finding.complaint?_isSome_iff]
  rw [allFailed, Bool.and_eq_true, decide_eq_true_iff, decide_eq_true_iff, hall,
    ← List.length_pos_iff]
  refine and_congr_left fun hfailed ↦ ?_
  rw [hall.2 hfailed]

end End

/-! ### Rounds through all accounts -/

/-- What a report shows of a round whose visits have found something. -/
structure Report.ShowsRound (monitor : Monitor) (findings : List Finding) (report : Report) :
    Prop where
  requests : report.requests =
    monitor.accounts.filterMap fun account ↦ (Backend.request monitor.client account).toOption
  printed : report.printed.map (Prod.map id some) =
    (findings.filterMap Finding.change?).map (rendering monitor.display)
  complaints : report.complaints =
    findings.filterMap Finding.complaint? ++ monitor.metricsComplaint?.toList
  allFailed : ∀ count, report.result = .allFailed count ↔ count = monitor.accounts.length ∧
    monitor.accounts ≠ [] ∧ ∀ finding ∈ findings, ∃ fault, finding.outcome = .error fault
  refreshed : report.result = .refreshed ↔ monitor.accounts = [] ∨
    ∃ finding ∈ findings, ∀ fault, finding.outcome ≠ .error fault
  message : ∀ count, report.result.message? = some (allFailedMessage count) ↔
    count = monitor.accounts.length ∧
      monitor.accounts ≠ [] ∧ ∀ finding ∈ findings, ∃ fault, finding.outcome = .error fault

section Rounds

variable {monitor} {occasions : ℕ → Occasion} {state : State}

theorem requests_visits_of_not_aborted
    (haborted :
      (monitor.visits { state } (monitor.roundInquiries occasions)).aborted = false) :
    (monitor.visits { state } (monitor.roundInquiries occasions)).requests =
      monitor.accounts.filterMap fun account ↦
        (Backend.request monitor.client account).toOption := by
  rw [requests_visits, roundJournal_of_not_aborted haborted, List.nil_append,
    List.filterMap_eq_flatMap_toList, ← account_roundInquiries monitor occasions, List.flatMap_map]
  rfl

/-- The message names the number of accounts. -/
theorem allFailedMessage_injective : Function.Injective allFailedMessage := by
  intro count other heq
  have hcounts : writeCount count = writeCount other :=
    String.append_right_inj _ |>.1 (String.append_left_inj _ |>.1 heq)
  exact Decimal.ofNat_injective (String.ofList_injective hcounts)

/-- A round says how many accounts there are exactly if that is its result. -/
theorem message?_roundResult_iff {round : Round} {count : ℕ} :
    (monitor.roundResult round).message? = some (allFailedMessage count) ↔
      monitor.roundResult round = .allFailed count := by
  cases hresult : monitor.roundResult round with
  | allFailed number =>
    rw [Result.message?, Option.some.injEq, Result.allFailed.injEq]
    exact allFailedMessage_injective.eq_iff
  | failed fault => exact absurd hresult (roundResult_ne_failed monitor)
  | changed | unchanged | refreshed | aborted =>
    exact iff_of_false (Option.some_ne_none _).symm Result.noConfusion

/-- A report shows what the visits of its round found if no document ended the round. -/
theorem showsRound_roundFindings
    (haborted :
      (monitor.visits { state } (monitor.roundInquiries occasions)).aborted = false) :
    (monitor.report state { action := .all, occasions }).ShowsRound monitor
      (monitor.roundFindings { state } (monitor.roundInquiries occasions)) := by
  let visited := monitor.visits { state } (monitor.roundInquiries occasions)
  let findings := monitor.roundFindings { state } (monitor.roundInquiries occasions)
  obtain ⟨hprinted, hcomplaints, hfailures⟩ := finish_shows monitor haborted
  have hfindings := areFindings_roundFindings haborted
  have hcount : visited.failures = (findings.filterMap Finding.complaint?).length := by
    rw [failures_visits haborted rfl, complaints_visits haborted]
    rfl
  have hall := allFailed_iff monitor hfindings.account_roundInquiries (hfailures.trans hcount)
  have hreport : monitor.report state { action := .all, occasions } =
      monitor.roundReport (monitor.finish visited) := by
    simp only [report]
    rw [refreshAll_eq_finish]
  obtain ⟨hfailed, hrefreshed⟩ :=
    roundResult_of_not_aborted monitor ((finish_aborted monitor visited).trans haborted)
  have hresult (count : ℕ) : monitor.roundResult (monitor.finish visited) = .allFailed count ↔
      count = monitor.accounts.length ∧ monitor.accounts ≠ [] ∧
        ∀ finding ∈ findings, ∃ fault, finding.outcome = .error fault := by
    rw [hfailed, hall]
  rw [hreport]
  refine ⟨?_, ?_, ?_, hresult, ?_, ?_⟩
  · exact (finish_ledgers_requests monitor visited).2.trans
      (requests_visits_of_not_aborted haborted)
  · exact (congrArg _ hprinted).trans (printed_visits haborted)
  · exact hcomplaints.trans (congrArg (· ++ _) (complaints_visits haborted))
  · refine hrefreshed.trans ?_
    rw [hall]
    simp only [not_and_or, not_not, not_forall, not_exists, exists_prop]
  · exact fun count ↦ message?_roundResult_iff.trans (hresult count)

theorem report_ledgers :
    (monitor.report state { action := .all, occasions }).state.ledgers =
      (monitor.visits { state } (monitor.roundInquiries occasions)).state.ledgers := by
  simp only [report, roundReport]
  rw [refreshAll_eq_finish, (finish_ledgers_requests monitor _).1]

theorem report_eq_aborted_iff :
    (monitor.report state { action := .all, occasions }).result = .aborted ↔
      (monitor.visits { state } (monitor.roundInquiries occasions)).aborted = true := by
  simp only [report, roundReport]
  rw [roundResult_eq_aborted_iff, refreshAll_eq_finish, finish_aborted]

/-- A report of a round says so if a document has ended the round. -/
theorem visits_aborted_of_result
    (hrendered : (monitor.report state { action := .all, occasions }).result ≠ .aborted) :
    (monitor.visits { state } (monitor.roundInquiries occasions)).aborted = false := by
  rw [← Bool.not_eq_true, ← report_eq_aborted_iff]
  exact hrendered

end Rounds

def sampleAccount : Account where
  number := ⟨1, by decide⟩

def sampleClient : BackendClient where
  settings := {}
  library := .plain

/-- A monitor that follows one account twice and another one once, and whose metrics cannot be
written. -/
def sampleMonitor : Monitor where
  client := sampleClient
  accounts := [sampleAccount, { number := ⟨2, by decide⟩ }, sampleAccount]
  display := { output := .json }
  metricsTarget := .unwritable "metrics.prom" "Permission denied"

def samplePath : String :=
  "/erc20/api/account/0x0000000000000000000000000000000000000001/in"

/-- A backend that knows of no transfers of the one account, and answers about any other account
with a status. -/
def sampleBackend (status : ℕ) : Backend := fun url ↦
  .ok { status := if url.target = samplePath then 200 else status, body := "\x7b\x7d" }

/-- All visits meet the one backend. -/
def sampleOccasions (status : ℕ) (_ : ℕ) : Occasion where
  backend := sampleBackend status
  seconds := 0

theorem sampleMonitor_renders (account : Account) (ledger : Ledger) :
    (ledger.render? account sampleMonitor.display).isSome := by
  rfl

end Monitor

end RunningBalance
