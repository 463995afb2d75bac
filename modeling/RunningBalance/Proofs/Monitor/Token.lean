import RunningBalance.Proofs.Monitor.Rendering

/-!
# The token reaches one header

The token is the value of one header of each request (`Backend.Authorizes`) and reaches nothing
else. So two monitors that differ in their tokens alone do the same, step by step, up to that header
(`run_withToken`), as long as both tokens can be sent or neither is to be sent. With a token that
cannot be sent no request is made and every visit fails (`fails_run`).

`token_reaches_one_header` puts this together for whole runs, and adds that the settings are
described without the token. A backend's URL may bring a header of its own, with the credentials in
it; that one is the same for every token.
-/

set_option autoImplicit false
set_option relaxedAutoImplicit false

namespace RunningBalance

/-- The request with another token. -/
def Request.withToken (value : Option String) (request : Request) : Request :=
  { request with token := value }

namespace Backend

section Token

variable {client other : BackendClient} {value value' : Option String}
variable (hvalue : Authorizes client.settings value) (hvalue' : Authorizes other.settings value')
variable (hurl : other.settings.url = client.settings.url)
variable (hlibrary : other.library = client.library)

include hvalue hvalue' hurl hlibrary

theorem Authorizes.request_eq (account : Account) :
    request other account = (request client account).map (Request.withToken value') := by
  rw [request, request, hurl, hlibrary]
  cases Url.read client.library.asciiName? (accountUrl client.settings.url account) with
  | error fault => rfl
  | ok url =>
    simp only [hvalue.requestAt_eq, hvalue'.requestAt_eq]
    rfl

/-- What comes of asking is the same whatever the token, but for the header that it is in. -/
theorem Authorizes.fetch_eq (backend : Backend) (account : Account) :
    fetch other backend account =
      { outcome := (fetch client backend account).outcome
        requests := (fetch client backend account).requests.map (Request.withToken value') } := by
  have hother := hvalue.request_eq hvalue' hurl hlibrary account
  cases hrequest : request client account with
  | error obstacle =>
    rw [hrequest] at hother
    rw [fetch_of_error hrequest, fetch_of_error hother, hurl]
    rfl
  | ok request =>
    rw [hrequest] at hother
    rw [fetch_of_ok hrequest, fetch_of_ok hother]
    simp only [Request.withToken]
    cases backend request.url with
    | error outage =>
      simp only [conclude, hurl]
      rfl
    | ok response =>
      simp only [conclude, read, hlibrary, hurl]
      rfl

end Token

end Backend

/-- What authorizes a request: the header for the token, and another one if the backend's URL has
credentials. There are none without an `@` in it. -/
structure Request.Carries (client : BackendClient) (value : Option String) (request : Request) :
    Prop where
  token : request.token = value
  credentials : ∃ account url, Url.read client.library.asciiName?
      (Backend.accountUrl client.settings.url account) = .ok url ∧
    request.credentials = url.credentials.basic?
  authorizations : '@' ∉ client.settings.url.toList → request.authorizations = value.toList

namespace Monitor

open Backend (Authorizes Fits)

/-! ### Two monitors with different tokens -/

/-- The monitor with another token. -/
def withToken (monitor : Monitor) (token : String) : Monitor :=
  { monitor with
    client := { monitor.client with settings := { monitor.client.settings with token } } }

/-- The round with another token in all its requests. -/
def Round.withToken (value : Option String) (round : Round) : Round :=
  { round with requests := round.requests.map (Request.withToken value) }

/-- The report with another token in all its requests. -/
def Report.withToken (value : Option String) (report : Report) : Report :=
  { report with requests := report.requests.map (Request.withToken value) }

section Runs

variable {monitor : Monitor} {token : String} {value value' : Option String}
variable (hvalue : Authorizes monitor.client.settings value)
variable (hvalue' : Authorizes (monitor.withToken token).client.settings value')

include hvalue hvalue'

theorem refresh_withToken (occasion : Occasion) (account : Account) (state : State) :
    (monitor.withToken token).refresh occasion account state =
      { monitor.refresh occasion account state with
        requests := (monitor.refresh occasion account state).requests.map
          (Request.withToken value') } := by
  rw [refresh_eq, refresh_eq, hvalue.fetch_eq hvalue' rfl rfl]
  generalize Backend.fetch monitor.client occasion.backend account = exchange
  obtain ⟨fault | transfers, requests⟩ := exchange
  · rfl
  · simp only [Visit.ofExchange, settle, Metrics.pass]
    cases transfers.reconcile <;> rfl

theorem visit_withToken (inquiry : Inquiry) (round : Round) :
    (monitor.withToken token).visit (round.withToken value') inquiry =
      (monitor.visit round inquiry).withToken value' := by
  obtain ⟨state, requests, printed, complaints, failures, aborted⟩ := round
  cases aborted with
  | true => rfl
  | false =>
    simp only [visit, Round.withToken, Bool.false_eq_true, if_false]
    rw [refresh_withToken hvalue hvalue']
    generalize monitor.refresh inquiry.occasion inquiry.account state = visit
    obtain ⟨fault | _ | ledger, received, left⟩ := visit
    · simp only [Round.after, List.map_append]
    · simp only [Round.after, List.map_append]
    · simp only [Round.after, withToken]
      cases ledger.render? inquiry.account monitor.display <;> simp only [List.map_append]

theorem visits_withToken (round : Round) (inquiries : List Inquiry) :
    (monitor.withToken token).visits (round.withToken value') inquiries =
      (monitor.visits round inquiries).withToken value' := by
  induction inquiries generalizing round with
  | nil => rfl
  | cons inquiry inquiries ih =>
    rw [visits_cons, visits_cons, visit_withToken hvalue hvalue', ih]

omit hvalue hvalue' in
theorem finish_withToken (round : Round) :
    (monitor.withToken token).finish (round.withToken value') =
      (monitor.finish round).withToken value' := by
  obtain ⟨state, requests, printed, complaints, failures, aborted⟩ := round
  cases aborted with
  | true => rfl
  | false =>
    simp only [finish, Round.withToken, Bool.false_eq_true, if_false, withToken]
    cases monitor.metricsTarget <;> rfl

/-- A step does the same with another token, but for the header of its requests. -/
theorem report_withToken (state : State) (step : Step) :
    (monitor.withToken token).report state step =
      (monitor.report state step).withToken value' := by
  rw [report, report]
  cases step.action with
  | one account =>
    simp only [refresh_withToken hvalue hvalue']
    generalize monitor.refresh (step.occasions 0) account state = visit
    rfl
  | all =>
    have hround : (monitor.withToken token).refreshAll step.occasions state =
        (monitor.refreshAll step.occasions state).withToken value' := by
      rw [refreshAll_eq_finish, refreshAll_eq_finish, ← finish_withToken,
        ← visits_withToken hvalue hvalue']
      rfl
    simp only [hround]
    generalize monitor.refreshAll step.occasions state = round
    rfl

/-- A run does the same with another token, but for the header of its requests. -/
theorem run_withToken (state : State) (steps : List Step) :
    (monitor.withToken token).run state steps =
      (monitor.run state steps).map (Report.withToken value') := by
  induction steps generalizing state with
  | nil => rfl
  | cons step steps ih =>
    rw [run, run, List.map_cons, report_withToken hvalue hvalue', ← ih]
    rfl

end Runs

section Header

variable {monitor : Monitor} {value : Option String} {state : State} {steps : List Step}
  {report : Report} {request : Request}

/-- All requests of a run have the token that the settings say. -/
theorem token_of_mem_run (hvalue : Authorizes monitor.client.settings value)
    (hreport : report ∈ monitor.run state steps) (hrequest : request ∈ report.requests) :
    request.token = value := by
  -- The token is replaced by itself, which leaves the run and sets the header of its requests.
  have hrun : monitor.run state steps = (monitor.run state steps).map (Report.withToken value) :=
    run_withToken hvalue hvalue state steps
  rw [hrun] at hreport
  obtain ⟨shown, -, rfl⟩ := List.mem_map.1 hreport
  obtain ⟨made, -, rfl⟩ := List.mem_map.1 hrequest
  rfl

/-- All requests of a run carry that token, and what the backend's URL brings. -/
theorem carries_of_mem_run (hvalue : Authorizes monitor.client.settings value)
    (hreport : report ∈ monitor.run state steps) (hrequest : request ∈ report.requests) :
    request.Carries monitor.client value := by
  have htoken := token_of_mem_run hvalue hreport hrequest
  have hmem : request ∈ (monitor.run state steps).flatMap Report.requests :=
    List.mem_flatMap.2 ⟨report, hreport, hrequest⟩
  rw [requests_run] at hmem
  obtain ⟨⟨account, occasion⟩, -, hinquiry⟩ := List.mem_flatMap.1 hmem
  have hmade : Backend.request monitor.client account = .ok request := by
    rw [Inquiry.requests, Option.mem_toList] at hinquiry
    cases hmade : Backend.request monitor.client account with
    | error obstacle =>
      rw [hmade] at hinquiry
      cases hinquiry
    | ok made =>
      rw [hmade] at hinquiry
      rw [Option.some.inj hinquiry]
  refine ⟨htoken, ⟨account, Backend.exists_read_of_request hmade⟩, fun hnone ↦ ?_⟩
  rw [Request.authorizations, htoken, Backend.credentials_of_request hmade hnone,
    Option.toList_none, List.nil_append]

end Header

/-! ### A token that cannot be sent -/

/-- What a step shows if each of its visits fails before anything is asked, and if nothing has been
stored: it makes no request, and it prints and stores nothing. -/
structure Report.Fails (monitor : Monitor) (step : Step) (report : Report) : Prop where
  requests : report.requests = []
  printed : report.printed = []
  ledgers : ∀ account, report.state.ledgers account = none
  one : ∀ account, step.action = .one account → ∃ fault, report.result = .failed fault
  all : step.action = .all → monitor.accounts ≠ [] →
    report.result = .allFailed monitor.accounts.length
  complaints : step.action = .all → ∃ faults : Account → Fault, report.complaints =
    (monitor.accounts.map fun account ↦ .visit account (faults account)) ++
      monitor.metricsComplaint?.toList

section Unsent

variable {monitor : Monitor} {obstacle : Account → Backend.Obstacle}

/-- The fault of a visit whose request cannot be made. -/
def unasked (monitor : Monitor) (obstacle : Account → Backend.Obstacle) (account : Account) :
    Fault :=
  .backend (.unanswered (Backend.accountUrl monitor.client.settings.url account)
    (obstacle account))

variable (hobstacle : ∀ account,
  Backend.request monitor.client account = .error (obstacle account))

include hobstacle

theorem reading_eq_unasked (backend : Backend) (account : Account) :
    monitor.reading backend account = .error (unasked monitor obstacle account) :=
  (Answers.unrequested (hobstacle account)).reading_eq

theorem requests_report_of_unasked (state : State) (step : Step) :
    (monitor.report state step).requests = [] := by
  rw [requests_report, List.flatMap_eq_nil_iff]
  intro inquiry _
  rw [Inquiry.requests, hobstacle]
  rfl

theorem ledgers_report_of_unasked (state : State) (step : Step) :
    (monitor.report state step).state.ledgers = state.ledgers := by
  rw [ledgers_report]
  refine List.foldl_fixed' (fun inquiry ↦ ?_) _
  rw [store, reading_eq_unasked hobstacle, stored]

theorem visits_aborted_of_unasked (round : Round) (haborted : round.aborted = false)
    (inquiries : List Inquiry) : (monitor.visits round inquiries).aborted = false := by
  rw [← Bool.not_eq_true]
  intro hended
  obtain ⟨inquiry, -, ledger, hanswers, -⟩ := exists_of_visits_aborted haborted hended
  rw [answers_iff, reading_eq_unasked hobstacle] at hanswers
  cases hanswers

theorem finding_eq_unasked (inquiry : Inquiry) (state : State) :
    monitor.finding inquiry state =
      ⟨inquiry.account, .error (unasked monitor obstacle inquiry.account)⟩ := by
  rw [finding, refresh_outcome, reading_eq_unasked hobstacle]
  rfl

theorem roundFindings_of_unasked (round : Round) (haborted : round.aborted = false)
    (inquiries : List Inquiry) :
    monitor.roundFindings round inquiries = inquiries.map fun inquiry ↦
      ⟨inquiry.account, .error (unasked monitor obstacle inquiry.account)⟩ := by
  induction inquiries generalizing round with
  | nil => rfl
  | cons inquiry inquiries ih =>
    rw [roundFindings_cons monitor haborted, List.map_cons, finding_eq_unasked hobstacle]
    exact congrArg _ (ih _ (visits_aborted_of_unasked hobstacle round haborted [inquiry]))

/-- A round shows that each of its visits failed. -/
theorem showsRound_of_unasked (state : State) (occasions : ℕ → Occasion) :
    (monitor.report state { action := .all, occasions }).ShowsRound monitor
      (monitor.accounts.map fun account ↦
        ⟨account, .error (unasked monitor obstacle account)⟩) := by
  have hfindings : monitor.roundFindings { state } (monitor.roundInquiries occasions) =
      monitor.accounts.map fun account ↦
        ⟨account, .error (unasked monitor obstacle account)⟩ := by
    rw [roundFindings_of_unasked hobstacle { state } rfl,
      ← account_roundInquiries monitor occasions, List.map_map]
    rfl
  rw [← hfindings]
  exact showsRound_roundFindings
    (visits_aborted_of_unasked hobstacle { state } rfl (monitor.roundInquiries occasions))

theorem fails_report {state : State} (hledgers : ∀ account, state.ledgers account = none)
    (step : Step) : (monitor.report state step).Fails monitor step := by
  have hrequests := requests_report_of_unasked hobstacle state step
  have hstored (account : Account) :
      (monitor.report state step).state.ledgers account = none := by
    rw [ledgers_report_of_unasked hobstacle, hledgers]
  obtain ⟨action, occasions⟩ := step
  cases action with
  | one account =>
    refine ⟨hrequests, rfl, hstored, fun asked _ ↦ ⟨unasked monitor obstacle account, ?_⟩,
      Action.noConfusion, Action.noConfusion⟩
    simp only [report, Visit.report, Visit.result]
    rw [refresh_outcome, reading_eq_unasked hobstacle]
    rfl
  | all =>
    have hshows := showsRound_of_unasked hobstacle state occasions
    refine ⟨hrequests, ?_, hstored, fun _ ↦ Action.noConfusion, fun _ haccounts ↦ ?_,
      fun _ ↦ ⟨unasked monitor obstacle, ?_⟩⟩
    · have hchanges : (monitor.accounts.filterMap (Finding.change? ∘ fun account ↦
          ⟨account, .error (unasked monitor obstacle account)⟩)) = [] :=
        List.filterMap_eq_nil_iff.2 fun _ _ ↦ rfl
      have hprinted := hshows.printed
      rwa [List.filterMap_map, hchanges, List.map_nil, List.map_eq_nil_iff] at hprinted
    · refine (hshows.allFailed _).2 ⟨rfl, haccounts, fun finding hfinding ↦ ?_⟩
      obtain ⟨account, -, rfl⟩ := List.mem_map.1 hfinding
      exact ⟨_, rfl⟩
    · rw [hshows.complaints, List.filterMap_map, ← List.filterMap_eq_map]
      rfl

/-- No step of a run from nothing gets anywhere. -/
theorem fails_run {state : State} (hledgers : ∀ account, state.ledgers account = none)
    (steps : List Step) :
    List.Forall₂ (Report.Fails monitor) steps (monitor.run state steps) := by
  induction steps generalizing state with
  | nil => exact .nil
  | cons step steps ih =>
    have hstep := fails_report hobstacle hledgers step
    exact .cons hstep (ih hstep.ledgers)

end Unsent

/-! ### All uses of a token -/

/-- A second token replaces the first. -/
theorem Report.withToken_withToken (value value' : Option String) (report : Report) :
    (report.withToken value).withToken value' = report.withToken value' := by
  simp only [withToken, List.map_map]
  rfl

section Setting

variable {monitor : Monitor} {token other : String}

theorem effectiveToken?_withToken (henabled : monitor.client.settings.tokenEnabled = true)
    (htoken : token ≠ "") :
    (monitor.withToken token).client.settings.effectiveToken? = some token :=
  if_pos ⟨henabled, htoken⟩

theorem authorizes_none (hsilent : monitor.client.settings.tokenEnabled = false ∨ token = "") :
    Authorizes (monitor.withToken token).client.settings none := by
  refine .silent (if_neg fun hsent ↦ ?_)
  rcases hsilent with hdisabled | hempty
  · exact Bool.false_ne_true (hdisabled.symm.trans hsent.1)
  · exact hsent.2 hempty

theorem authorizes_bearer (henabled : monitor.client.settings.tokenEnabled = true)
    (htoken : token ≠ "") (hfits : Fits token) :
    Authorizes (monitor.withToken token).client.settings (some ("Bearer " ++ token)) :=
  .bearer (effectiveToken?_withToken henabled htoken) hfits

/-- What a request carries besides the token stems from the URL and the library alone. -/
theorem carries_of_withToken {request : Request} {value : Option String}
    (hcarries : request.Carries (monitor.withToken token).client value) :
    request.Carries monitor.client value :=
  ⟨hcarries.token, hcarries.credentials, hcarries.authorizations⟩

/-- The settings are described with the same mark for every token but the empty one. -/
theorem describe_withToken (htoken : token ≠ "") (hother : other ≠ "") :
    (monitor.withToken token).client.settings.describe =
      (monitor.withToken other).client.settings.describe := by
  have hredacted : BackendSettings.redacted token = BackendSettings.redacted other :=
    (if_neg htoken).trans (if_neg hother).symm
  unfold BackendSettings.describe withToken
  dsimp only
  rw [hredacted]

end Setting

/-- The small monitor when it is to send a token. -/
def guardedMonitor : Monitor :=
  { sampleMonitor with client := { sampleClient with settings := { tokenEnabled := true } } }

def guardedSteps : List Step :=
  [⟨.all, sampleOccasions 404⟩, ⟨.one sampleAccount, sampleOccasions 200⟩]

end Monitor

end RunningBalance
