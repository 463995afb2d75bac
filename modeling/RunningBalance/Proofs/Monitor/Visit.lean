import RunningBalance.Monitor.Run
import RunningBalance.Proofs.Backend

/-!
# What a visit makes of an answer

A visit to an account asks the backend and reconciles what it answers. The ledger this makes, or
the stage at which it fails, depends on the client, the backend and the account alone
(`Monitor.Answers`, computed by `Monitor.reading`: `answers_iff`). What is stored decides only
whether the ledger counts as changed (`refresh_outcome`). A visit stores the ledger for its account,
and a failure stores nothing (`refresh_ledgers`); the collector is called once for what is fetched
(`refresh_metrics`).

A round makes its visits one after another, each with what it meets (`refreshAll_eq_finish`), until
one of them ends it (`visit_of_not_aborted`).
-/

set_option autoImplicit false
set_option relaxedAutoImplicit false

namespace RunningBalance.Monitor

/-! ### What a visit reads -/

section Reading

variable (monitor : Monitor)

/-- How the request for an account's transfers ends, stage by stage: it cannot be made, nothing
answers it, the status refuses it, the body cannot be decoded, the transfers cannot be reconciled,
or they make a ledger. -/
inductive Answers (backend : Backend) (account : Account) : Except Fault Ledger → Prop
  | unrequested {obstacle : Backend.Obstacle}
      (hrequest : Backend.request monitor.client account = .error obstacle) :
      Answers backend account
        (.error (.backend
          (.unanswered (Backend.accountUrl monitor.client.settings.url account) obstacle)))
  | unreached {request : Request} {outage : Backend.Outage}
      (hrequest : Backend.request monitor.client account = .ok request)
      (houtage : backend request.url = .error outage) :
      Answers backend account
        (.error (.backend (.unanswered (Backend.accountUrl monitor.client.settings.url account)
          (.unreached request.url outage))))
  | refused {request : Request} {response : Response}
      (hrequest : Backend.request monitor.client account = .ok request)
      (hresponse : backend request.url = .ok response)
      (hstatus : ¬(200 ≤ response.status ∧ response.status < 300)) :
      Answers backend account
        (.error (.backend (.status response.status
          (Backend.accountUrl monitor.client.settings.url account))))
  | undecodable {request : Request} {response : Response}
      (hrequest : Backend.request monitor.client account = .ok request)
      (hresponse : backend request.url = .ok response)
      (hstatus : 200 ≤ response.status ∧ response.status < 300)
      (hbody : ∀ transfers, Transfers.ofText response.body ≠ .ok transfers) :
      Answers backend account
        (.error (.backend (.undecodable (monitor.client.library.wording response.body))))
  | unreconciled {request : Request} {response : Response} {transfers : Transfers}
      {fault : Ledger.Fault}
      (hrequest : Backend.request monitor.client account = .ok request)
      (hresponse : backend request.url = .ok response)
      (hstatus : 200 ≤ response.status ∧ response.status < 300)
      (hbody : Transfers.ofText response.body = .ok transfers)
      (hfault : transfers.reconcile = .error fault) :
      Answers backend account (.error (.reconciliation account fault))
  | reconciled {request : Request} {response : Response} {transfers : Transfers} {ledger : Ledger}
      (hrequest : Backend.request monitor.client account = .ok request)
      (hresponse : backend request.url = .ok response)
      (hstatus : 200 ≤ response.status ∧ response.status < 300)
      (hbody : Transfers.ofText response.body = .ok transfers)
      (hledger : transfers.reconcile = .ok ledger) :
      Answers backend account (.ok ledger)

/-- The ledger that a visit reads, or why it fails, whatever is stored. -/
def reading (backend : Backend) (account : Account) : Except Fault Ledger :=
  match (Backend.fetch monitor.client backend account).outcome with
  | .error fault => .error (.backend fault)
  | .ok transfers => transfers.reconcile.mapError (.reconciliation account)

variable {monitor} {backend : Backend} {account : Account} {outcome : Except Fault Ledger}

/-- A visit reads what the backend answers. -/
theorem Answers.reading_eq (hanswers : monitor.Answers backend account outcome) :
    monitor.reading backend account = outcome := by
  unfold reading
  cases hanswers with
  | unrequested hrequest => rw [Backend.fetch_of_error hrequest]
  | unreached hrequest houtage =>
    rw [Backend.fetch_of_ok hrequest, houtage]
    rfl
  | refused hrequest hresponse hstatus =>
    rw [Backend.fetch_of_ok hrequest, hresponse, Backend.conclude, Backend.read_of_refused hstatus]
  | undecodable hrequest hresponse hstatus hbody =>
    rw [Backend.fetch_of_ok hrequest, hresponse, Backend.conclude, Backend.read_of_success hstatus]
    cases hread : Transfers.ofText _ with
    | error fault => rfl
    | ok transfers => exact absurd hread (hbody transfers)
  | unreconciled hrequest hresponse hstatus hbody hfault =>
    rw [Backend.fetch_of_ok hrequest, hresponse, Backend.conclude, Backend.read_of_success hstatus,
      hbody]
    simp only [Except.mapError, hfault]
  | reconciled hrequest hresponse hstatus hbody hledger =>
    rw [Backend.fetch_of_ok hrequest, hresponse, Backend.conclude, Backend.read_of_success hstatus,
      hbody]
    simp only [Except.mapError, hledger]

variable (monitor backend account)

/-- Every request ends at one of the stages. -/
theorem exists_answers : ∃ outcome, monitor.Answers backend account outcome := by
  cases hrequest : Backend.request monitor.client account with
  | error obstacle => exact ⟨_, .unrequested hrequest⟩
  | ok request =>
    cases hresponse : backend request.url with
    | error outage => exact ⟨_, .unreached hrequest hresponse⟩
    | ok response =>
      by_cases hstatus : 200 ≤ response.status ∧ response.status < 300
      · cases hbody : Transfers.ofText response.body with
        | error fault => exact ⟨_, .undecodable hrequest hresponse hstatus (by simp [hbody])⟩
        | ok transfers =>
          cases hledger : transfers.reconcile with
          | error fault => exact ⟨_, .unreconciled hrequest hresponse hstatus hbody hledger⟩
          | ok ledger => exact ⟨_, .reconciled hrequest hresponse hstatus hbody hledger⟩
      · exact ⟨_, .refused hrequest hresponse hstatus⟩

variable {monitor backend account}

/-- The backend gives one answer, and a visit reads it. -/
theorem answers_iff :
    monitor.Answers backend account outcome ↔ monitor.reading backend account = outcome := by
  refine ⟨Answers.reading_eq, fun hreading ↦ ?_⟩
  obtain ⟨answer, hanswers⟩ := exists_answers monitor backend account
  rwa [← hreading, hanswers.reading_eq]

end Reading

/-! ### What a visit changes -/

section Stored

variable {account : Account} {outcome : Except Fault Ledger}

/-- The ledgers stored after an outcome about an account: a ledger replaces that of its account, a
failure replaces nothing. -/
def stored (ledgers : Account → Option Ledger) (account : Account) :
    Except Fault Ledger → Account → Option Ledger
  | .error _ => ledgers
  | .ok ledger => Function.update ledgers account (some ledger)

/-- An outcome leaves the ledgers of all other accounts. -/
theorem stored_of_ne {ledgers : Account → Option Ledger} {asked : Account}
    (hasked : asked ≠ account) : stored ledgers account outcome asked = ledgers asked := by
  cases outcome with
  | error fault => rfl
  | ok ledger => exact Function.update_of_ne hasked (some ledger) ledgers

end Stored

variable (monitor : Monitor) (occasion : Occasion) (account : Account) (state : State)

/-- The visit that makes an exchange, whose pass takes so long. -/
def Visit.ofExchange (account : Account) (state : State) (seconds : Float) :
    Backend.Exchange → Visit
  | ⟨.error fault, requests⟩ => { outcome := .error (.backend fault), requests, state }
  | ⟨.ok transfers, requests⟩ => settle account state requests transfers seconds

/-- A visit asks, and settles what it has fetched. -/
theorem refreshIn_script (occasions : ℕ → Occasion) (place : ℕ) :
    Id.run (monitor.refreshIn (.script occasions) place account state) =
      .ofExchange account state (occasions place).seconds
        (Backend.fetch monitor.client (occasions place).backend account) := by
  have hfetch : Id.run (Backend.fetchIn ((Surroundings.script occasions).ask place) monitor.client
      account) = Backend.fetch monitor.client (occasions place).backend account := by
    rw [Backend.fetch]
    rfl
  rw [refreshIn, Id.run_bind, hfetch]
  generalize Backend.fetch monitor.client (occasions place).backend account = exchange
  obtain ⟨fault | transfers, requests⟩ := exchange <;> rfl

theorem refresh_eq :
    monitor.refresh occasion account state = .ofExchange account state occasion.seconds
      (Backend.fetch monitor.client occasion.backend account) := by
  rw [refresh, refreshIn_script]

/-- What comes of a visit: a ledger that is read counts as changed unless it is the stored one, and
it is stored; the requests are those of the fetch, and the metrics file is left as it is. -/
theorem refresh_spec :
    let visit := monitor.refresh occasion account state
    visit.outcome = ((monitor.reading occasion.backend account).map fun ledger ↦
        if state.ledgers account = some ledger then none else some ledger) ∧
      visit.requests = (Backend.fetch monitor.client occasion.backend account).requests ∧
      visit.state.ledgers =
        stored state.ledgers account (monitor.reading occasion.backend account) ∧
      visit.state.exposed = state.exposed := by
  rw [refresh_eq, reading]
  generalize Backend.fetch monitor.client occasion.backend account = exchange
  obtain ⟨fault | transfers, requests⟩ := exchange
  · exact ⟨rfl, rfl, rfl, rfl⟩
  · simp only [Visit.ofExchange, settle, Metrics.pass]
    cases transfers.reconcile with
    | error fault => exact ⟨rfl, rfl, rfl, rfl⟩
    | ok ledger =>
      refine ⟨rfl, rfl, funext fun asked ↦ ?_, rfl⟩
      simp only [Except.mapError, stored]
      by_cases hasked : asked = account
      · rw [hasked, State.keep_ledgers_self, Function.update_self]
      · rw [State.keep_ledgers_of_ne _ _ hasked, Function.update_of_ne hasked]

theorem refresh_outcome :
    (monitor.refresh occasion account state).outcome =
      (monitor.reading occasion.backend account).map fun ledger ↦
        if state.ledgers account = some ledger then none else some ledger :=
  (refresh_spec monitor occasion account state).1

theorem refresh_requests :
    (monitor.refresh occasion account state).requests =
      (Backend.fetch monitor.client occasion.backend account).requests :=
  (refresh_spec monitor occasion account state).2.1

theorem refresh_ledgers :
    (monitor.refresh occasion account state).state.ledgers =
      stored state.ledgers account (monitor.reading occasion.backend account) :=
  (refresh_spec monitor occasion account state).2.2.1

/-- A visit leaves what the metrics file holds. -/
theorem refresh_exposed :
    (monitor.refresh occasion account state).state.exposed = state.exposed :=
  (refresh_spec monitor occasion account state).2.2.2

/-- A visit makes one call on the collector, for what it has fetched, or none if it has fetched
nothing. -/
theorem refresh_metrics :
    (monitor.refresh occasion account state).state.metrics =
      (state.metrics.performAll
        ((Backend.fetch monitor.client occasion.backend account).outcome.toOption.map
          (Metrics.Call.attached · occasion.seconds)).toList).2 := by
  rw [refresh_eq]
  generalize Backend.fetch monitor.client occasion.backend account = exchange
  obtain ⟨fault | transfers, requests⟩ := exchange
  · rfl
  · simp only [Visit.ofExchange, settle, Metrics.pass, Except.toOption, Option.map_some,
      Option.toList_some, Metrics.performAll, Metrics.perform]
    cases transfers.reconcile <;> rfl

theorem refresh_changed_iff {ledger : Ledger} :
    (monitor.refresh occasion account state).outcome = .ok (some ledger) ↔
      monitor.Answers occasion.backend account (.ok ledger) ∧
        state.ledgers account ≠ some ledger := by
  rw [refresh_outcome, answers_iff]
  cases monitor.reading occasion.backend account with
  | error fault => exact iff_of_false (fun hchanged ↦ nomatch hchanged) fun hmade ↦ nomatch hmade
  | ok made =>
    rw [Except.map, Except.ok.injEq, Except.ok.injEq]
    by_cases hheld : state.ledgers account = some made
    · rw [if_pos hheld, hheld]
      exact iff_of_false (Option.some_ne_none ledger).symm
        fun hmade ↦ hmade.2 (congrArg some hmade.1)
    · rw [if_neg hheld, Option.some.injEq]
      exact ⟨fun hmade ↦ ⟨hmade, hmade ▸ hheld⟩, And.left⟩

theorem refresh_unchanged_iff :
    (monitor.refresh occasion account state).outcome = .ok none ↔
      ∃ ledger, monitor.Answers occasion.backend account (.ok ledger) ∧
        state.ledgers account = some ledger := by
  simp only [refresh_outcome, answers_iff]
  cases monitor.reading occasion.backend account with
  | error fault => exact iff_of_false (fun hsame ↦ nomatch hsame) fun ⟨_, hledger⟩ ↦ nomatch hledger
  | ok made =>
    simp only [Except.map, Except.ok.injEq, exists_eq_left']
    by_cases hheld : state.ledgers account = some made
    · exact iff_of_true (if_pos hheld) hheld
    · rw [if_neg hheld]
      exact iff_of_false (Option.some_ne_none made) hheld

theorem refresh_failed_iff {fault : Fault} :
    (monitor.refresh occasion account state).outcome = .error fault ↔
      monitor.Answers occasion.backend account (.error fault) := by
  rw [refresh_outcome, answers_iff]
  cases monitor.reading occasion.backend account with
  | error found => simp only [Except.map, Except.error.injEq]
  | ok made => exact iff_of_false (fun hfailed ↦ nomatch hfailed) fun hfault ↦ nomatch hfault

/-! ### The visits of a round -/

/-- A visit to make, with what it meets. -/
structure Inquiry where
  account : Account
  occasion : Occasion

/-- The round after a visit, by what comes of it. -/
def Round.after (round : Round) (account : Account) (visit : Visit) : Round :=
  let round := { round with state := visit.state, requests := round.requests ++ visit.requests }
  match visit.outcome with
  | .error fault =>
    { round with
      complaints := round.complaints ++ [.visit account fault]
      failures := round.failures + 1 }
  | .ok none => round
  | .ok (some ledger) =>
    match ledger.render? account monitor.display with
    | some document => { round with printed := round.printed ++ [(account, document)] }
    | none => { round with aborted := true }

/-- Visits one more account. -/
def visit (round : Round) (inquiry : Inquiry) : Round :=
  if round.aborted then round
  else
    round.after monitor inquiry.account
      (monitor.refresh inquiry.occasion inquiry.account round.state)

/-- Visits one account after another. -/
def visits (round : Round) (inquiries : List Inquiry) : Round :=
  inquiries.foldl monitor.visit round

/-- The visits to make in a round through all accounts. -/
def roundInquiries (occasions : ℕ → Occasion) : List Inquiry :=
  monitor.accounts.mapIdx fun place account ↦ { account, occasion := occasions place }

theorem account_roundInquiries (occasions : ℕ → Occasion) :
    (monitor.roundInquiries occasions).map Inquiry.account = monitor.accounts := by
  refine List.ext_getElem (by simp [roundInquiries]) fun place _ _ ↦ ?_
  simp [roundInquiries]

theorem exists_occasion_of_mem {monitor : Monitor} {occasions : ℕ → Occasion} {inquiry : Inquiry}
    (hmem : inquiry ∈ monitor.roundInquiries occasions) :
    ∃ place, inquiry.occasion = occasions place := by
  obtain ⟨place, -, rfl⟩ := List.mem_mapIdx.1 hmem
  exact ⟨place, rfl⟩

/-- Leaves the metrics after all visits, where every file can be written. -/
def finish (round : Round) : Round :=
  if round.aborted then round
  else
    match monitor.metricsTarget with
    | .nowhere => round
    | .file _ =>
      { round with state := { round.state with exposed := some round.state.metrics.exposition } }
    | .unwritable path cause =>
      { round with complaints := round.complaints ++ [.metrics path cause] }

theorem visits_cons (round : Round) (inquiry : Inquiry) (inquiries : List Inquiry) :
    monitor.visits round (inquiry :: inquiries) =
      monitor.visits (monitor.visit round inquiry) inquiries :=
  rfl

section Script

variable (occasions : ℕ → Occasion) (place : ℕ) (round : Round)

theorem visitIn_script :
    Id.run (monitor.visitIn (.script occasions) place round account) =
      monitor.visit round { account, occasion := occasions place } := by
  have hrefresh : Id.run (monitor.refreshIn (.script occasions) place account round.state) =
      monitor.refresh (occasions place) account round.state :=
    (refreshIn_script monitor account round.state occasions place).trans (refresh_eq _ _ _ _).symm
  rw [visitIn, visit]
  by_cases haborted : round.aborted = true
  · rw [if_pos haborted, if_pos haborted]
    rfl
  · rw [if_neg haborted, if_neg haborted, Id.run_bind, hrefresh]
    generalize monitor.refresh (occasions place) account round.state = visit
    obtain ⟨fault | _ | ledger, requests, state⟩ := visit
    · rfl
    · rfl
    · simp only [Round.after]
      cases ledger.render? account monitor.display <;> rfl

theorem visitsIn_script (accounts : List Account) :
    Id.run (monitor.visitsIn (.script occasions) place round accounts) =
      monitor.visits round (accounts.mapIdx fun later account ↦
        { account, occasion := occasions (place + later) }) := by
  induction accounts generalizing place round with
  | nil => rfl
  | cons account accounts ih =>
    have hplace (later : ℕ) : place + 1 + later = place + (later + 1) := by omega
    rw [visitsIn, Id.run_bind, visitIn_script, ih, List.mapIdx_cons, visits_cons]
    simp only [hplace, Nat.add_zero]

theorem finishIn_script :
    Id.run (monitor.finishIn (.script occasions) round) = monitor.finish round := by
  rw [finishIn, finish]
  by_cases haborted : round.aborted = true
  · rw [if_pos haborted, if_pos haborted]
    rfl
  · rw [if_neg haborted, if_neg haborted]
    cases monitor.metricsTarget <;> dsimp only <;> rfl

/-- A round makes its visits one after another, and leaves the metrics after them. -/
theorem refreshAll_eq_finish :
    monitor.refreshAll occasions state =
      monitor.finish (monitor.visits { state } (monitor.roundInquiries occasions)) := by
  rw [refreshAll, refreshAllIn, Id.run_bind, visitsIn_script, finishIn_script]
  simp only [Nat.zero_add]
  rfl

end Script

variable {monitor} {round : Round} {inquiry : Inquiry}

theorem visit_of_aborted (haborted : round.aborted = true) :
    monitor.visit round inquiry = round :=
  if_pos haborted

theorem visit_eq_after (haborted : round.aborted = false) :
    monitor.visit round inquiry = round.after monitor inquiry.account
      (monitor.refresh inquiry.occasion inquiry.account round.state) :=
  if_neg (ne_true_of_eq_false haborted)

/-- A visit of a round is a visit to the account; its outcome decides only what is shown. -/
theorem visit_of_not_aborted (haborted : round.aborted = false) :
    (monitor.visit round inquiry).state =
        (monitor.refresh inquiry.occasion inquiry.account round.state).state ∧
      (monitor.visit round inquiry).requests = round.requests ++
        (monitor.refresh inquiry.occasion inquiry.account round.state).requests := by
  rw [visit_eq_after haborted]
  generalize monitor.refresh inquiry.occasion inquiry.account round.state = visit
  obtain ⟨fault | _ | ledger, requests, state⟩ := visit
  · exact ⟨rfl, rfl⟩
  · exact ⟨rfl, rfl⟩
  · simp only [Round.after]
    cases ledger.render? inquiry.account monitor.display <;> exact ⟨rfl, rfl⟩

end RunningBalance.Monitor
