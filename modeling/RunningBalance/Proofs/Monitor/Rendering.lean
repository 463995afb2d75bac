import RunningBalance.Program
import RunningBalance.Proofs.Ledger.Statement
import RunningBalance.Proofs.Monitor.Round
import RunningBalance.Proofs.Transfer.Response

/-!
# Rounds that a ledger ends

A round ends early at the first ledger found changed that cannot be rendered; this ledger is stored
already, but the accounts after it are not visited (`exists_of_visits_aborted`). With a display that
is safe no ledger does so. With any other one some backend ends a round that way, if there is an
account with a request (`aborts_iff_not_isSafe`): settings may ask for more decimals than a field
has places, and are accepted (`accepted_settings_abort`).
-/

set_option autoImplicit false
set_option relaxedAutoImplicit false

namespace RunningBalance.Monitor

/-! ### The ledger that ends a round -/

section Visits

variable {monitor : Monitor} {round : Round} {inquiry : Inquiry} {inquiries : List Inquiry}

/-- A visit ends a round if it finds a ledger changed that cannot be rendered. -/
theorem visit_aborted_iff (haborted : round.aborted = false) :
    (monitor.visit round inquiry).aborted = true ↔
      ∃ ledger, (monitor.refresh inquiry.occasion inquiry.account round.state).outcome =
          .ok (some ledger) ∧ ledger.render? inquiry.account monitor.display = none := by
  rw [visit_eq_after haborted]
  generalize monitor.refresh inquiry.occasion inquiry.account round.state = visit
  obtain ⟨fault | _ | ledger, requests, state⟩ := visit
  · simp [Round.after, haborted]
  · simp [Round.after, haborted]
  · cases hdocument : ledger.render? inquiry.account monitor.display <;>
      simp [Round.after, hdocument, haborted]

/-- What ends a round is a ledger that cannot be rendered, and it is stored by then. -/
theorem exists_of_visits_aborted (haborted : round.aborted = false)
    (hended : (monitor.visits round inquiries).aborted = true) :
    ∃ inquiry ∈ inquiries, ∃ ledger,
      monitor.Answers inquiry.occasion.backend inquiry.account (.ok ledger) ∧
        (monitor.visits round inquiries).state.ledgers inquiry.account = some ledger ∧
        ledger.render? inquiry.account monitor.display = none := by
  induction inquiries generalizing round with
  | nil => exact absurd hended (ne_true_of_eq_false haborted)
  | cons inquiry inquiries ih =>
    rw [visits_cons] at hended ⊢
    cases hvisit : (monitor.visit round inquiry).aborted with
    | true =>
      obtain ⟨ledger, hchanged, hnone⟩ := (visit_aborted_iff haborted).1 hvisit
      have hanswers := ((refresh_changed_iff _ _ _ _).1 hchanged).1
      refine ⟨inquiry, List.mem_cons_self, ledger, hanswers, ?_, hnone⟩
      rw [visits_of_aborted monitor hvisit, (visit_of_not_aborted haborted).1, refresh_ledgers,
        hanswers.reading_eq, stored, Function.update_self]
    | false =>
      obtain ⟨asked, hmem, hasked⟩ := ih hvisit hended
      exact ⟨asked, List.mem_cons_of_mem inquiry hmem, hasked⟩

end Visits

/-! ### A backend that ends rounds -/

/-- A backend that knows of a transfer-in of nothing, whatever it is asked. -/
def idleBackend : Backend := fun _ ↦
  .ok { status := 200, body := Ledger.idleTransfers.json.compact }

/-- All visits meet this backend, and their passes take any time. -/
def idleOccasions (seconds : ℕ → Float) (place : ℕ) : Occasion where
  backend := idleBackend
  seconds := seconds place

section Idle

variable {monitor : Monitor} {round : Round} {inquiries : List Inquiry}

theorem answers_idle {account : Account} {request : Request}
    (hrequest : Backend.request monitor.client account = .ok request) :
    monitor.Answers idleBackend account (.ok Ledger.idle) :=
  .reconciled hrequest rfl (by decide) (Transfers.ofText_compact _) Ledger.reconcile_idleTransfers

/-- If the display is not safe, the backend ends a round at an account that has a request and of
which nothing is stored. -/
theorem visit_idle_aborted {inquiry : Inquiry} (hsafe : ¬monitor.display.IsSafe)
    (hbackend : inquiry.occasion.backend = idleBackend)
    (hledger : round.state.ledgers inquiry.account = none) (haborted : round.aborted = false)
    {request : Request} (hrequest : Backend.request monitor.client inquiry.account = .ok request) :
    (monitor.visit round inquiry).aborted = true := by
  have hanswers := answers_idle hrequest
  rw [← hbackend] at hanswers
  have hnew : round.state.ledgers inquiry.account ≠ some Ledger.idle :=
    hledger ▸ (Option.some_ne_none _).symm
  have hnone : Ledger.idle.render? inquiry.account monitor.display = none :=
    Option.not_isSome_iff_eq_none.1 (mt Ledger.render?_idle_isSome_iff.1 hsafe)
  exact (visit_aborted_iff haborted).2
    ⟨_, (refresh_changed_iff _ _ _ _).2 ⟨hanswers, hnew⟩, hnone⟩

/-- The backend ends a round at the first account that has a request, if the display is not safe. -/
theorem visits_idle_aborted (hsafe : ¬monitor.display.IsSafe)
    (hbackend : ∀ inquiry ∈ inquiries, inquiry.occasion.backend = idleBackend)
    (hrequest : ∃ inquiry ∈ inquiries, (Backend.request monitor.client inquiry.account).isOk)
    (hledgers : ∀ account, round.state.ledgers account = none) :
    (monitor.visits round inquiries).aborted = true := by
  induction inquiries generalizing round with
  | nil =>
    obtain ⟨inquiry, hmem, -⟩ := hrequest
    cases hmem
  | cons inquiry inquiries ih =>
    rw [List.forall_mem_cons] at hbackend
    rw [visits_cons]
    cases hvisit : (monitor.visit round inquiry).aborted with
    | true => rw [visits_of_aborted monitor hvisit, hvisit]
    | false =>
      have haborted := aborted_of_visit hvisit
      obtain ⟨obstacle, hobstacle⟩ :
          ∃ obstacle, Backend.request monitor.client inquiry.account = .error obstacle := by
        cases hfirst : Backend.request monitor.client inquiry.account with
        | error obstacle => exact ⟨obstacle, rfl⟩
        | ok request =>
          have hended := visit_idle_aborted hsafe hbackend.1 (hledgers _) haborted hfirst
          exact absurd hended (ne_true_of_eq_false hvisit)
      refine ih hbackend.2 ?_ fun asked ↦ ?_
      · obtain ⟨asked, hmem, hasked⟩ := hrequest
        rcases List.mem_cons.1 hmem with rfl | hmem
        · rw [hobstacle] at hasked
          cases hasked
        · exact ⟨asked, hmem, hasked⟩
      · rw [(visit_of_not_aborted haborted).1, refresh_ledgers,
          Answers.reading_eq (.unrequested hobstacle), stored, hledgers]

theorem visits_idleOccasions_aborted (seconds : ℕ → Float) (hsafe : ¬monitor.display.IsSafe)
    (hrequest : ∃ account ∈ monitor.accounts, (Backend.request monitor.client account).isOk) :
    (monitor.visits { state := .initial }
      (monitor.roundInquiries (idleOccasions seconds))).aborted = true := by
  refine visits_idle_aborted hsafe (fun inquiry hinquiry ↦ ?_) ?_ fun _ ↦ rfl
  · obtain ⟨place, hplace⟩ := exists_occasion_of_mem hinquiry
    rw [hplace, idleOccasions]
  · obtain ⟨account, hmem, haccount⟩ := hrequest
    rw [← account_roundInquiries monitor (idleOccasions seconds)] at hmem
    obtain ⟨inquiry, hinquiry, rfl⟩ := List.mem_map.1 hmem
    exact ⟨inquiry, hinquiry, haccount⟩

end Idle

/-- The account of a visit to be made in a round is one of the monitor's. -/
theorem mem_accounts_of_mem {monitor : Monitor} {occasions : ℕ → Occasion} {inquiry : Inquiry}
    (hmem : inquiry ∈ monitor.roundInquiries occasions) : inquiry.account ∈ monitor.accounts := by
  rw [← account_roundInquiries monitor occasions]
  exact List.mem_map_of_mem hmem

/-- A ledger is rendered if the display is safe, or else if no amount of it needs padding; so every
ledger of a reconciliation is rendered only with a safe display. Rounds end early with any other one
alone, and only if an account has a request; then some backend ends a round, however long its passes
take. Where a round ends early, a ledger is stored that cannot be rendered. -/
theorem aborts_iff_not_isSafe (monitor : Monitor) :
    (∀ account ledger, (Ledger.render? account ledger monitor.display).isSome ↔
        monitor.display.IsSafe ∨
          ∀ entry ∈ ledger.entries, entry.NeedsNoPadding monitor.display) ∧
      ((∀ account (transfers : Transfers) (ledger : Ledger), transfers.reconcile = .ok ledger →
        (ledger.render? account monitor.display).isSome) ↔ monitor.display.IsSafe) ∧
      ((∃ occasions state,
        (monitor.report state { action := .all, occasions }).result = .aborted) ↔
          ¬monitor.display.IsSafe ∧
            ∃ account ∈ monitor.accounts, (Backend.request monitor.client account).isOk) ∧
      (¬monitor.display.IsSafe →
        (∃ account ∈ monitor.accounts, (Backend.request monitor.client account).isOk) →
          ∃ backend, ∀ seconds : ℕ → Float, (monitor.report .initial
            { action := .all, occasions := fun place ↦ ⟨backend, seconds place⟩ }).result =
              .aborted) ∧
      ∀ occasions state,
        (monitor.report state { action := .all, occasions }).result = .aborted →
          ∃ account ∈ monitor.accounts, ∃ ledger,
            (monitor.report state { action := .all, occasions }).state.ledgers account =
              some ledger ∧ ledger.render? account monitor.display = none := by
  have hidle (seconds : ℕ → Float) (hsafe : ¬monitor.display.IsSafe)
      (hrequest : ∃ account ∈ monitor.accounts,
        (Backend.request monitor.client account).isOk) :
      (monitor.report .initial
        { action := .all, occasions := idleOccasions seconds }).result = .aborted :=
    report_eq_aborted_iff.2 (visits_idleOccasions_aborted seconds hsafe hrequest)
  refine ⟨fun _ _ ↦ Ledger.render?_isSome_iff, Ledger.forall_render?_isSome_iff, ⟨?_, ?_⟩,
    fun hsafe hrequest ↦ ⟨idleBackend, fun seconds ↦ hidle seconds hsafe hrequest⟩, ?_⟩
  · rintro ⟨occasions, state, hresult⟩
    rw [report_eq_aborted_iff] at hresult
    obtain ⟨inquiry, hmem, ledger, hanswers, -, hnone⟩ := exists_of_visits_aborted rfl hresult
    refine ⟨fun hsafe ↦ ?_, inquiry.account, mem_accounts_of_mem hmem, ?_⟩
    · have hsome : (ledger.render? inquiry.account monitor.display).isSome :=
        Ledger.render?_isSome_iff.2 (.inl hsafe)
      rw [hnone] at hsome
      cases hsome
    · cases hanswers with
      | reconciled hrequest =>
        rw [hrequest]
        rfl
  · rintro ⟨hsafe, hrequest⟩
    exact ⟨idleOccasions fun _ ↦ 0, .initial, hidle _ hsafe hrequest⟩
  · intro occasions state hresult
    rw [report_eq_aborted_iff] at hresult
    obtain ⟨inquiry, hmem, ledger, -, hledger, hnone⟩ := exists_of_visits_aborted rfl hresult
    rw [report_ledgers]
    exact ⟨inquiry.account, mem_accounts_of_mem hmem, ledger, hledger, hnone⟩

/-! ### Settings that are accepted -/

/-- Variables for one account and a token with one decimal more than the widest field has places. -/
def wideEnvironment : Environment
  | "BALANCE_ACCOUNTS" => some sampleAccount.write
  | "TOKEN_DECIMALS" => some "65536"
  | _ => none

def wideSettings : Settings :=
  { accounts := [sampleAccount.write], display := { decimals := 65536 } }

def wideMonitor : Monitor where
  client := { settings := wideSettings.backend, library := .plain }
  accounts := [sampleAccount]
  display := wideSettings.display
  metricsTarget := .nowhere

theorem not_isSafe_wideMonitor : ¬wideMonitor.display.IsSafe := by
  rintro (htext | hwidth)
  · cases htext
  · exact absurd hwidth (by decide)

theorem request_wideMonitor :
    ∃ account ∈ wideMonitor.accounts, (Backend.request wideMonitor.client account).isOk :=
  ⟨sampleAccount, List.mem_singleton_self _, by decide +kernel⟩

/-- The settings are accepted, but the first ledger of their monitor cannot be rendered: it is
stored when the round ends. -/
theorem accepted_settings_abort :
    Settings.ofEnvironment wideEnvironment = .ok wideSettings ∧
      Program.monitorOf .plain (fun _ ↦ none) wideSettings = .ok wideMonitor ∧
      Ledger.idleTransfers.reconcile = .ok Ledger.idle ∧
      Ledger.idle.render? sampleAccount wideSettings.display = none ∧
      (wideMonitor.report .initial
          { action := .all, occasions := idleOccasions fun _ ↦ 0 }).result = .aborted ∧
      (wideMonitor.report .initial
        { action := .all, occasions := idleOccasions fun _ ↦ 0 }).state.ledgers sampleAccount =
          some Ledger.idle := by
  have haddresses : wideSettings.addresses = .ok [sampleAccount] := by decide +kernel
  have hended := visits_idleOccasions_aborted (fun _ ↦ 0) not_isSafe_wideMonitor
    request_wideMonitor
  obtain ⟨inquiry, hmem, ledger, hanswers, hledger, hnone⟩ := exists_of_visits_aborted rfl hended
  obtain ⟨place, hplace⟩ := exists_occasion_of_mem hmem
  have haccount : inquiry.account = sampleAccount :=
    List.mem_singleton.1 (mem_accounts_of_mem hmem)
  rw [hplace, idleOccasions, haccount] at hanswers
  rw [haccount] at hledger hnone
  obtain rfl : Ledger.idle = ledger := by
    have hreading := hanswers.reading_eq
    cases hanswers with
    | reconciled hrequest =>
      rw [(answers_idle hrequest).reading_eq] at hreading
      exact Except.ok.inj hreading
  refine ⟨by decide +kernel, ?_, Ledger.reconcile_idleTransfers, hnone, ?_, ?_⟩
  · rw [Program.monitorOf, haddresses]
    rfl
  · exact report_eq_aborted_iff.2 hended
  · rw [report_ledgers]
    exact hledger

/-- Some round of the monitor ends early, with a ledger stored that cannot be rendered. -/
theorem wideMonitor_aborts : ∃ occasions state, ∃ account ∈ wideMonitor.accounts, ∃ ledger,
    (wideMonitor.report state { action := .all, occasions }).state.ledgers account =
      some ledger ∧ ledger.render? account wideMonitor.display = none := by
  obtain ⟨-, -, hiff, -, hstored⟩ := aborts_iff_not_isSafe wideMonitor
  obtain ⟨occasions, state, hresult⟩ := hiff.2 ⟨not_isSafe_wideMonitor, request_wideMonitor⟩
  exact ⟨occasions, state, hstored occasions state hresult⟩

end RunningBalance.Monitor
