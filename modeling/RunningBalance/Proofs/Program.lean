import RunningBalance.Proofs.Monitor.Rendering
import RunningBalance.Proofs.Settings.Agreement

/-!
# The program without a schedule

Settings that load name accounts, at least one (`exists_monitorOf`). Without a schedule the program
visits them once, and nothing is stored before. So each account has its ledger found changed at its
first visit, if its answer makes one, and never again (`account_changes`): every account that
succeeds is printed once, however often it is named. The program fails if no account succeeds, and
also if the settings do not load; then it asks and prints nothing. `run_once` is the main statement.
-/

set_option autoImplicit false
set_option relaxedAutoImplicit false

namespace RunningBalance

/-! ### Settings that load -/

namespace Settings

variable {settings : Settings}

theorem validate_of_ofFile {path : String} {content? : Option String}
    (h : ofFile path content? = .ok settings) : validate settings = .ok settings := by
  cases content? with
  | none => cases h
  | some content =>
    rw [ofFile] at h
    split at h
    · rw [ofTable] at h
      split at h
      · obtain rfl := eq_of_validate h
        exact h
      · cases h
    · cases h

theorem validate_of_ofEnvironment {environment : Environment}
    (h : ofEnvironment environment = .ok settings) : validate settings = .ok settings := by
  rw [ofEnvironment] at h
  cases hspelled : spelled environment with
  | error fault =>
    rw [hspelled] at h
    cases h
  | ok meant =>
    rw [hspelled] at h
    obtain rfl := eq_of_validate h
    exact h

/-- Settings that load have been validated. -/
theorem validate_of_load {environment : Environment} {files : Files}
    (h : load environment files = .ok settings) : validate settings = .ok settings := by
  rw [load] at h
  split at h
  · cases h
  split at h
  · exact validate_of_ofFile h
  · exact validate_of_ofEnvironment h

/-- Settings that are valid name accounts, at least one. -/
theorem exists_addresses (h : validate settings = .ok settings) :
    ∃ accounts, settings.addresses = .ok accounts ∧ accounts ≠ [] := by
  rw [validate] at h
  split at h
  · cases h
  split at h
  · cases h
  next hsome =>
  split at h
  · next accounts haddresses =>
    refine ⟨accounts, haddresses, fun hnil ↦ hsome ?_⟩
    rw [addresses, Attempts.mapM_eq_ok_iff, hnil, List.forall₂_nil_right_iff] at haddresses
    rw [haddresses, List.isEmpty_nil]
  · cases h

end Settings

namespace Program

/-- Settings that are valid ask for a monitor of the accounts that they name. -/
theorem exists_monitorOf {settings : Settings} (h : settings.validate = .ok settings)
    (library : Backend.Library) (hindrance? : String → Option String) :
    ∃ monitor, monitorOf library hindrance? settings = .ok monitor ∧
      monitor.client = ⟨settings.backend, library⟩ ∧ monitor.display = settings.display ∧
      settings.addresses = .ok monitor.accounts ∧ monitor.accounts ≠ [] := by
  obtain ⟨accounts, haddresses, hne⟩ := Settings.exists_addresses h
  rw [monitorOf, haddresses]
  exact ⟨_, rfl, rfl, rfl, rfl, hne⟩

end Program

/-! ### One round from nothing -/

namespace Monitor

variable (monitor : Monitor) (backend : Backend)

/-- The answer about an account makes a ledger. -/
def Succeeds (account : Account) : Prop :=
  ∃ ledger, monitor.Answers backend account (.ok ledger)

instance : DecidablePred (monitor.Succeeds backend) := fun account ↦
  decidable_of_iff ((monitor.reading backend account).isOk = true) <| by
    rw [Succeeds]
    simp only [answers_iff]
    cases monitor.reading backend account <;> simp [Except.isOk, Except.toBool]

/-- The ledgers that the answers make can be rendered. -/
def Renders : Prop :=
  ∀ account ∈ monitor.accounts, ∀ ledger, monitor.Answers backend account (.ok ledger) →
    (ledger.render? account monitor.display).isSome

variable {monitor backend}

theorem not_succeeds_iff {account : Account} :
    ¬monitor.Succeeds backend account ↔
      ∃ fault, monitor.Answers backend account (.error fault) := by
  rw [Succeeds]
  simp only [answers_iff]
  cases monitor.reading backend account <;> simp

private theorem eraseDups_concat {α : Type*} [DecidableEq α] (xs : List α) (x : α) :
    (xs ++ [x]).eraseDups = xs.eraseDups ++ if x ∈ xs then [] else [x] := by
  rw [List.eraseDups_append]
  refine congrArg (xs.eraseDups ++ ·) ?_
  by_cases hx : x ∈ xs
  · simp [List.removeAll, hx]
  · simp [List.removeAll, hx, List.eraseDups_cons]

/-- Where nothing is stored before a round, an account has its ledger found changed at its first
visit if it succeeds. -/
theorem account_changes_of_unstored {findings : List Finding}
    (hchanged : ∀ before finding after, findings = before ++ finding :: after → ∀ ledger,
      finding.outcome = .ok (some ledger) ↔
        monitor.Answers backend finding.account (.ok ledger) ∧
          finding.account ∉ before.map Finding.account) :
    (findings.filterMap Finding.change?).map Prod.fst =
      (findings.map Finding.account).eraseDups.filter (monitor.Succeeds backend ·) := by
  induction findings using List.reverseRecOn with
  | nil => rfl
  | append_singleton earlier last ih =>
    have hearlier := ih fun before finding after hsplit ↦
      hchanged before finding (after ++ [last]) (by simp [hsplit])
    have hlast := hchanged earlier last [] rfl
    rw [List.filterMap_append, List.map_append, hearlier, List.map_append, List.map_singleton,
      eraseDups_concat, List.filter_append]
    refine congrArg
      ((earlier.map Finding.account).eraseDups.filter (monitor.Succeeds backend ·) ++ ·) ?_
    by_cases hnew : last.account ∉ earlier.map Finding.account ∧
        monitor.Succeeds backend last.account
    · obtain ⟨hfirst, ledger, hanswers⟩ := hnew
      have hchange : last.change? = some (last.account, ledger) :=
        Finding.change?_eq_some_iff.2 ⟨rfl, (hlast ledger).2 ⟨hanswers, hfirst⟩⟩
      have hsucceeds : monitor.Succeeds backend last.account := ⟨ledger, hanswers⟩
      simp [hchange, hfirst, hsucceeds]
    · have hchange : last.change? = none := by
        refine Option.eq_none_iff_forall_ne_some.2 fun change hsome ↦ hnew ?_
        obtain ⟨-, houtcome⟩ := Finding.change?_eq_some_iff.1 hsome
        obtain ⟨hanswers, hfirst⟩ := (hlast change.2).1 houtcome
        exact ⟨hfirst, change.2, hanswers⟩
      by_cases hfirst : last.account ∈ earlier.map Finding.account
      · simp [hchange, hfirst]
      · have hfailed : ¬monitor.Succeeds backend last.account := fun hsucceeds ↦
          hnew ⟨hfirst, hsucceeds⟩
        simp [hchange, hfirst, hfailed]

section OneBackend

variable {ledgers : Account → Option Ledger} {findings : List Finding}
variable (hanswered : monitor.AreAnswered backend ledgers findings)

include hanswered

/-- A ledger found changed is what the answer makes. -/
theorem AreAnswered.answers_of_change {change : Account × Ledger}
    (hmem : change ∈ findings.filterMap Finding.change?) :
    monitor.Answers backend change.1 (.ok change.2) := by
  obtain ⟨finding, hfinding, hchange⟩ := List.mem_filterMap.1 hmem
  obtain ⟨before, after, hsplit⟩ := List.append_of_mem hfinding
  obtain ⟨haccount, houtcome⟩ := Finding.change?_eq_some_iff.1 hchange
  rw [← haccount]
  exact ((hanswered.changed before finding after hsplit change.2).1 houtcome).1

/-- All visits fail if no account succeeds. -/
theorem AreAnswered.forall_failed_iff :
    (∀ finding ∈ findings, ∃ fault, finding.outcome = .error fault) ↔
      ∀ account ∈ findings.map Finding.account, ¬monitor.Succeeds backend account := by
  rw [List.forall_mem_map]
  refine forall₂_congr fun finding hfinding ↦ ?_
  rw [not_succeeds_iff]
  exact exists_congr (hanswered.failed finding hfinding)

/-- Where nothing is stored before a round, its changes are those of the accounts that succeed. -/
theorem AreAnswered.account_changes (hledgers : ledgers = fun _ ↦ none) :
    (findings.filterMap Finding.change?).map Prod.fst =
      (findings.map Finding.account).eraseDups.filter (monitor.Succeeds backend ·) := by
  refine account_changes_of_unstored fun before finding after hsplit ledger ↦ ?_
  refine (hanswered.changed before finding after hsplit ledger).trans
    (and_congr_right fun _ ↦ and_iff_right ?_)
  rw [hledgers]
  exact (Option.some_ne_none ledger).symm

/-- Where nothing is stored before a round, it prints a document about each account that succeeds,
in the order in which the accounts are first visited. -/
theorem Report.ShowsRound.account_printed {report : Report}
    (hshows : report.ShowsRound monitor findings) (hledgers : ledgers = fun _ ↦ none) :
    report.printed.map Prod.fst =
      (findings.map Finding.account).eraseDups.filter (monitor.Succeeds backend ·) := by
  have hfirst := congrArg (List.map Prod.fst) hshows.printed
  rw [List.map_map, List.map_map] at hfirst
  exact hfirst.trans (hanswered.account_changes hledgers)

/-- A document that a round prints is that of the ledger that the answer makes. -/
theorem Report.ShowsRound.exists_ledger_of_mem {report : Report}
    (hshows : report.ShowsRound monitor findings) {shown : Account × String}
    (hshown : shown ∈ report.printed) :
    ∃ ledger, monitor.Answers backend shown.1 (.ok ledger) ∧
      ledger.render? shown.1 monitor.display = some shown.2 := by
  have hmem := List.mem_map_of_mem (f := Prod.map id some) hshown
  rw [hshows.printed] at hmem
  obtain ⟨change, hchange, heq⟩ := List.mem_map.1 hmem
  have haccount : change.1 = shown.1 := congrArg Prod.fst heq
  have hrendered : change.2.render? change.1 monitor.display = some shown.2 :=
    congrArg Prod.snd heq
  rw [← haccount]
  exact ⟨change.2, hanswered.answers_of_change hchange, hrendered⟩

end OneBackend

/-- No document ends a round if what the answers make can be rendered. -/
theorem visits_aborted_of_renders (seconds : ℕ → Float) (hrender : monitor.Renders backend) :
    (monitor.visits { state := .initial }
      (monitor.roundInquiries fun place ↦ ⟨backend, seconds place⟩)).aborted = false := by
  let occasions : ℕ → Occasion := fun place ↦ ⟨backend, seconds place⟩
  have hbackend : ∀ inquiry ∈ monitor.roundInquiries occasions,
      inquiry.occasion.backend = backend := backend_of_mem_roundInquiries fun _ ↦ rfl
  by_contra hended
  rw [Bool.not_eq_false] at hended
  obtain ⟨inquiry, hmem, ledger, hanswers, -, hnone⟩ := exists_of_visits_aborted rfl hended
  rw [hbackend inquiry hmem] at hanswers
  have hsome := hrender inquiry.account (mem_accounts_of_mem hmem) ledger hanswers
  rw [hnone] at hsome
  cases hsome

end Monitor

/-! ### The program -/

namespace Program

/-- Each account that succeeds is printed once, in the order in which the accounts are first named,
and the program fails if none does. -/
structure Outcome.ShowsOnce (outcome : Outcome) (monitor : Monitor) (backend : Backend) : Prop where
  account : outcome.printed.map Prod.fst =
    monitor.accounts.eraseDups.filter (monitor.Succeeds backend ·)
  document : ∀ shown ∈ outcome.printed, ∃ ledger, monitor.Answers backend shown.1 (.ok ledger) ∧
    ledger.render? shown.1 monitor.display = some shown.2
  output : ∃ documents, outcome.output = String.join (documents.map (· ++ "\n")) ∧
    List.Forall₂ (fun account document ↦ ∃ ledger, monitor.Answers backend account (.ok ledger) ∧
      ledger.render? account monitor.display = some document)
        (monitor.accounts.eraseDups.filter (monitor.Succeeds backend ·)) documents
  failure : outcome.ending.exitCode ≠ 0 ↔
    ∀ account ∈ monitor.accounts, ¬monitor.Succeeds backend account

variable {monitor : Monitor} {backend : Backend} {seconds : ℕ → Float}

/-- A program that is not to wait fails if all visits failed. -/
theorem exitCode_endingAfter {round : Monitor.Round} (haborted : round.aborted = false) :
    (endingAfter monitor none round).exitCode ≠ 0 ↔ monitor.allFailed round = true := by
  rw [endingAfter, if_neg (ne_true_of_eq_false haborted)]
  cases monitor.allFailed round <;> simp [Ending.exitCode]

/-- What the program shows is its first round. -/
theorem start_eq (monitor : Monitor) (schedule : Option String) (occasions : ℕ → Occasion) :
    let round := monitor.refreshAll occasions .initial
    start monitor schedule occasions =
      { ending := endingAfter monitor schedule round
        printed := round.printed
        logged := round.complaints.map Monitor.Complaint.explanation ++
          (remarks monitor schedule round).map Prod.snd
        requests := round.requests
        exposed := round.state.exposed } := by
  intro round
  have hround : Id.run (monitor.refreshAllIn (.script occasions) .initial) = round := by
    rw [← Monitor.refreshAll]
  simp only [start, startIn, Id.run_bind, hround]
  generalize remarks monitor schedule round = remarks
  cases endingAfter monitor schedule round <;> rfl

/-- The text that is printed is the documents, each with a line end. -/
theorem exists_output {outcome : Outcome} {P : Account → String → Prop}
    (hdocument : ∀ shown ∈ outcome.printed, P shown.1 shown.2) :
    ∃ documents, outcome.output = String.join (documents.map (· ++ "\n")) ∧
      List.Forall₂ P (outcome.printed.map Prod.fst) documents := by
  refine ⟨outcome.printed.map Prod.snd, ?_, ?_⟩
  · rw [Outcome.output, List.map_map]
    rfl
  · rw [List.forall₂_map_left_iff, List.forall₂_map_right_iff, List.forall₂_same]
    exact hdocument

theorem start_printed (monitor : Monitor) (schedule : Option String) (occasions : ℕ → Occasion) :
    (start monitor schedule occasions).printed =
      (monitor.report .initial { action := .all, occasions }).printed := by
  rw [start_eq]
  rfl

/-- A program that is not to wait fails if there are accounts and what it finds are failures. -/
theorem exitCode_start_iff {occasions : ℕ → Occasion} {findings : List Monitor.Finding}
    (hne : monitor.accounts ≠ [])
    (haborted : (monitor.refreshAll occasions .initial).aborted = false)
    (hshows : (monitor.report .initial { action := .all, occasions }).ShowsRound monitor findings) :
    (start monitor none occasions).ending.exitCode ≠ 0 ↔
      ∀ finding ∈ findings, ∃ fault, finding.outcome = .error fault := by
  have hending : (start monitor none occasions).ending =
      endingAfter monitor none (monitor.refreshAll occasions .initial) := by
    rw [start_eq]
  have hresult : (monitor.report .initial { action := .all, occasions }).result =
      monitor.roundResult (monitor.refreshAll occasions .initial) := rfl
  have hall := hshows.allFailed monitor.accounts.length
  rw [hresult, (Monitor.roundResult_of_not_aborted monitor haborted).1, and_iff_right rfl,
    and_iff_right rfl, and_iff_right hne] at hall
  rw [hending]
  exact (exitCode_endingAfter haborted).trans hall

/-- A round of a monitor with accounts shows each that succeeds once. -/
theorem showsOnce_start (hne : monitor.accounts ≠ []) (hrender : monitor.Renders backend) :
    (start monitor none fun place ↦ ⟨backend, seconds place⟩).ShowsOnce monitor backend := by
  let occasions : ℕ → Occasion := fun place ↦ ⟨backend, seconds place⟩
  have haborted : (monitor.visits { state := .initial }
      (monitor.roundInquiries occasions)).aborted = false :=
    Monitor.visits_aborted_of_renders seconds hrender
  have hfindings := Monitor.areFindings_roundFindings haborted
  have haccounts := hfindings.account_roundInquiries
  have hbackend : ∀ inquiry ∈ monitor.roundInquiries occasions,
      inquiry.occasion.backend = backend := Monitor.backend_of_mem_roundInquiries fun _ ↦ rfl
  have hanswered := hfindings.areAnswered hbackend
  have hshows := Monitor.showsRound_roundFindings haborted
  have haccount : (start monitor none occasions).printed.map Prod.fst =
      monitor.accounts.eraseDups.filter (monitor.Succeeds backend ·) := by
    rw [start_printed, ← haccounts]
    exact hshows.account_printed hanswered rfl
  have hdocument : ∀ shown ∈ (start monitor none occasions).printed,
      ∃ ledger, monitor.Answers backend shown.1 (.ok ledger) ∧
        ledger.render? shown.1 monitor.display = some shown.2 := by
    rw [start_printed]
    exact fun _ ↦ hshows.exists_ledger_of_mem hanswered
  refine ⟨haccount, hdocument, ?_, ?_⟩
  · rw [← haccount]
    exact exists_output hdocument
  · have hended : (monitor.refreshAll occasions .initial).aborted = false := by
      rw [Monitor.refreshAll_eq_finish, Monitor.finish_aborted]
      exact haborted
    refine (exitCode_start_iff hne hended hshows).trans ?_
    rw [hanswered.forall_failed_iff, haccounts]

theorem exitCode_ofFault (fault : Settings.Fault) : (Ending.ofFault fault).exitCode ≠ 0 := by
  cases fault <;> simp [Ending.ofFault, Ending.exitCode]

/-- Variables for the accounts of the small monitor, the second mention of the first account with
another mark. -/
def sampleEnvironment : Environment
  | "BALANCE_ACCOUNTS" => some ("0x0000000000000000000000000000000000000001, " ++
      "0x0000000000000000000000000000000000000002, 0X0000000000000000000000000000000000000001")
  | "OUTPUT_FORMAT" => some "json"
  | "METRICS_FILE" => some "metrics.prom"
  | _ => none

def sampleSettings : Settings :=
  { accounts := ["0x0000000000000000000000000000000000000001",
      "0x0000000000000000000000000000000000000002", "0X0000000000000000000000000000000000000001"]
    display := { output := .json }
    metricsFile := some "metrics.prom" }

end Program

end RunningBalance
