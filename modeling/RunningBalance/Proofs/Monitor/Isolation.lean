import RunningBalance.Proofs.Monitor.Round

/-!
# Accounts do not influence one another

What comes of visiting an account depends on the answer at the URL of that account and on the ledger
stored for it, and on nothing else. So two runs that do the same, with backends that agree about one
account and differ in all else, show the same about it in every step (`Monitor.Share`): the outcomes
of its visits, the documents printed and the failures complained about, and the ledger stored after
the step (`shares_eq_of_agreesAbout`).

A document that cannot be rendered ends a round before the later accounts are visited, so the runs
compared are those in which none does.
-/

set_option autoImplicit false
set_option relaxedAutoImplicit false

namespace RunningBalance.Monitor

/-! ### One visit -/

section Visit

variable {monitor : Monitor} {account asked : Account} {occasion other : Occasion}
variable {state state' : State}

/-- The ledger stored for an account after a visit, to whichever account, depends on the one stored
before and on the answer about the account. -/
theorem refresh_ledgers_congr
    (hreading : monitor.reading occasion.backend account = monitor.reading other.backend account)
    (hledger : state.ledgers account = state'.ledgers account) :
    (monitor.refresh occasion asked state).state.ledgers account =
      (monitor.refresh other asked state').state.ledgers account := by
  rw [refresh_ledgers, refresh_ledgers]
  by_cases hasked : account = asked
  · subst hasked
    rw [hreading]
    cases monitor.reading other.backend account with
    | error fault => exact hledger
    | ok ledger => simp only [stored, Function.update_self]
  · rw [stored_of_ne hasked, stored_of_ne hasked, hledger]

/-- So does what comes of a visit to the account. -/
theorem refresh_outcome_congr
    (hreading : monitor.reading occasion.backend account = monitor.reading other.backend account)
    (hledger : state.ledgers account = state'.ledgers account) :
    (monitor.refresh occasion account state).outcome =
      (monitor.refresh other account state').outcome := by
  rw [refresh_outcome, refresh_outcome, hreading, hledger]

end Visit

/-! ### The share of an account -/

variable (monitor : Monitor) (account : Account)

/-- What the visits of a step find. -/
def stepFindings (state : State) (step : Step) : List Finding :=
  match step.action with
  | .one asked => [monitor.finding ⟨asked, step.occasions 0⟩ state]
  | .all => monitor.roundFindings { state } (monitor.roundInquiries step.occasions)

def Complaint.isAbout : Complaint → Bool
  | .visit asked _ => asked = account
  | .metrics _ _ => false

/-- What a step shows about an account. -/
structure Share where
  /-- How the step ends if it is a visit to the account alone. -/
  result : Option Result
  /-- What comes of the visits to the account. -/
  outcomes : List (Except Fault (Option Ledger))
  printed : List String
  complaints : List Complaint
  /-- The ledger stored after the step. -/
  ledger : Option Ledger

def share (state : State) (step : Step) : Share where
  result :=
    if step.action = .one account then some (monitor.report state step).result else none
  outcomes := ((monitor.stepFindings state step).filter (·.account = account)).map Finding.outcome
  printed := ((monitor.report state step).printed.filter (·.1 = account)).map Prod.snd
  complaints := (monitor.report state step).complaints.filter (·.isAbout account)
  ledger := (monitor.report state step).state.ledgers account

/-- What the steps of a run show about an account, from a state on. -/
def shares (state : State) : List Step → List Share
  | [] => []
  | step :: steps =>
    monitor.share account state step :: shares (monitor.report state step).state steps

/-- Backends that give the same answer about an account. -/
def AgreeAbout (backend other : Backend) : Prop :=
  ∀ request, Backend.request monitor.client account = .ok request →
    backend request.url = other request.url

/-- Steps that do the same, and whose visits meet backends that give the same answer about an
account. -/
structure Step.AgreesAbout (step other : Step) : Prop where
  action : step.action = other.action
  answer : ∀ place,
    monitor.AgreeAbout account (step.occasions place).backend (other.occasions place).backend

variable {monitor account}

theorem AgreeAbout.reading_eq {backend other : Backend}
    (hagree : monitor.AgreeAbout account backend other) :
    monitor.reading backend account = monitor.reading other account := by
  rw [reading, reading, Backend.fetch_congr hagree]

/-! ### Two rounds -/

/-- Visits to the same account, which meet backends that give the same answer about an account. -/
structure Inquiry.AgreesAbout (monitor : Monitor) (account : Account) (inquiry other : Inquiry) :
    Prop where
  asked : inquiry.account = other.account
  answer : monitor.AgreeAbout account inquiry.occasion.backend other.occasion.backend

/-- Visits to the account itself find the same where the same ledger is stored for it. -/
theorem Inquiry.AgreesAbout.finding_eq {inquiry other : Inquiry} {state state' : State}
    (hagree : inquiry.AgreesAbout monitor account other) (hasked : inquiry.account = account)
    (hledger : state.ledgers account = state'.ledgers account) :
    monitor.finding inquiry state = monitor.finding other state' := by
  have hreading := hagree.answer.reading_eq
  simp only [finding, refresh_outcome, ← hagree.asked, hasked, hreading, hledger]

theorem Step.AgreesAbout.roundInquiries {step other : Step}
    (hagree : step.AgreesAbout monitor account other) :
    List.Forall₂ (Inquiry.AgreesAbout monitor account) (monitor.roundInquiries step.occasions)
      (monitor.roundInquiries other.occasions) := by
  rw [List.forall₂_iff_get]
  refine ⟨by simp [Monitor.roundInquiries], fun place hplace hplace' ↦ ⟨?_, ?_⟩⟩
  · simp [Monitor.roundInquiries]
  · simpa [Monitor.roundInquiries] using hagree.answer place

/-- Two rounds of visits that agree about an account find the same about it, and leave the same
ledger for it. -/
theorem roundFindings_filter_congr {inquiries others : List Inquiry}
    (hagree : List.Forall₂ (Inquiry.AgreesAbout monitor account) inquiries others)
    {round round' : Round} (hledger : round.state.ledgers account = round'.state.ledgers account)
    (haborted : (monitor.visits round inquiries).aborted = false)
    (haborted' : (monitor.visits round' others).aborted = false) :
    (monitor.roundFindings round inquiries).filter (·.account = account) =
        (monitor.roundFindings round' others).filter (·.account = account) ∧
      (monitor.visits round inquiries).state.ledgers account =
        (monitor.visits round' others).state.ledgers account := by
  induction hagree generalizing round round' with
  | nil => exact ⟨rfl, hledger⟩
  | @cons inquiry other inquiries others hvisit _ ih =>
    have hround := aborted_of_visits haborted
    have hround' := aborted_of_visits haborted'
    have hnext : (monitor.visit round inquiry).state.ledgers account =
        (monitor.visit round' other).state.ledgers account := by
      rw [(visit_of_not_aborted hround).1, (visit_of_not_aborted hround').1, ← hvisit.asked]
      exact refresh_ledgers_congr hvisit.answer.reading_eq hledger
    rw [visits_cons] at haborted haborted' ⊢
    rw [visits_cons]
    obtain ⟨hfindings, hledgers⟩ := ih hnext haborted haborted'
    refine ⟨?_, hledgers⟩
    rw [roundFindings_cons monitor hround, roundFindings_cons monitor hround', List.filter_cons,
      List.filter_cons, hfindings, finding_account, finding_account, ← hvisit.asked]
    by_cases hasked : inquiry.account = account
    · rw [hvisit.finding_eq hasked hledger]
    · simp only [hasked, decide_false, Bool.false_eq_true, if_false]

/-! ### What a round shows about an account -/

section Shown

variable {findings : List Finding} {report : Report}

/-- The documents about an account are those of its findings. -/
theorem Report.ShowsRound.printed_about (hshows : report.ShowsRound monitor findings) :
    (report.printed.filter (·.1 = account)).map (Prod.map id some) =
      ((findings.filter (·.account = account)).filterMap Finding.change?).map
        (rendering monitor.display) := by
  have hchanges : (findings.filterMap Finding.change?).filter (·.1 = account) =
      (findings.filter (·.account = account)).filterMap Finding.change? := by
    rw [List.filter_filterMap, List.filterMap_filter]
    refine List.filterMap_congr fun finding _ ↦ ?_
    obtain ⟨asked, fault | _ | ledger⟩ := finding <;> simp [Finding.change?, Option.filter]
  have hprinted := congrArg (List.filter fun shown ↦ shown.1 = account) hshows.printed
  rw [List.filter_map, List.filter_map] at hprinted
  rw [← hchanges]
  exact hprinted

/-- The complaints about an account are those about its findings. -/
theorem Report.ShowsRound.complaints_about (hshows : report.ShowsRound monitor findings) :
    report.complaints.filter (·.isAbout account) =
      (findings.filter (·.account = account)).filterMap Finding.complaint? := by
  have hmetrics : monitor.metricsComplaint?.toList.filter (·.isAbout account) = [] := by
    unfold metricsComplaint?
    cases monitor.metricsTarget <;> rfl
  rw [hshows.complaints, List.filter_append, hmetrics, List.append_nil, List.filter_filterMap,
    List.filterMap_filter]
  refine List.filterMap_congr fun finding _ ↦ ?_
  obtain ⟨asked, fault | _ | ledger⟩ := finding <;>
    simp [Finding.complaint?, Complaint.isAbout, Option.filter]

end Shown

/-! ### Two runs -/

section Runs

variable {state state' : State}

/-- Visits to one account, whichever it is, show the same about an account. -/
theorem share_one_congr {asked : Account} {occasions occasions' : ℕ → Occasion}
    (hanswer : monitor.AgreeAbout account (occasions 0).backend (occasions' 0).backend)
    (hledger : state.ledgers account = state'.ledgers account) :
    monitor.share account state ⟨.one asked, occasions⟩ =
      monitor.share account state' ⟨.one asked, occasions'⟩ := by
  have hstored : (monitor.refresh (occasions 0) asked state).state.ledgers account =
      (monitor.refresh (occasions' 0) asked state').state.ledgers account :=
    refresh_ledgers_congr hanswer.reading_eq hledger
  simp only [share, stepFindings, report, Visit.report, hstored, List.filter_nil, List.map_nil]
  by_cases hasked : asked = account
  · subst hasked
    have houtcome : (monitor.refresh (occasions 0) asked state).outcome =
        (monitor.refresh (occasions' 0) asked state').outcome :=
      refresh_outcome_congr hanswer.reading_eq hledger
    have hvisit : Inquiry.AgreesAbout monitor asked ⟨asked, occasions 0⟩ ⟨asked, occasions' 0⟩ :=
      ⟨rfl, hanswer⟩
    rw [hvisit.finding_eq rfl hledger, Visit.result, Visit.result, houtcome]
  · simp only [List.filter_cons, finding_account, Action.one.injEq, hasked, decide_false,
      Bool.false_eq_true, if_false, List.filter_nil]

/-- Rounds that no document ends show the same about an account. -/
theorem share_all_congr {occasions occasions' : ℕ → Occasion}
    (hinquiries : List.Forall₂ (Inquiry.AgreesAbout monitor account)
      (monitor.roundInquiries occasions) (monitor.roundInquiries occasions'))
    (hledger : state.ledgers account = state'.ledgers account)
    (hrendered : (monitor.report state ⟨.all, occasions⟩).result ≠ .aborted)
    (hrendered' : (monitor.report state' ⟨.all, occasions'⟩).result ≠ .aborted) :
    monitor.share account state ⟨.all, occasions⟩ =
      monitor.share account state' ⟨.all, occasions'⟩ := by
  have haborted := visits_aborted_of_result hrendered
  have haborted' := visits_aborted_of_result hrendered'
  have hshows := showsRound_roundFindings haborted
  have hshows' := showsRound_roundFindings haborted'
  have hround : (Round.state { state }).ledgers account =
      (Round.state { state := state' }).ledgers account := hledger
  obtain ⟨hfindings, hledgers⟩ :=
    roundFindings_filter_congr hinquiries hround haborted haborted'
  have hprinted :
      (monitor.report state ⟨.all, occasions⟩).printed.filter (·.1 = account) =
        (monitor.report state' ⟨.all, occasions'⟩).printed.filter (·.1 = account) := by
    refine List.map_injective_iff.2
      (Function.injective_id.prodMap (Option.some_injective String)) ?_
    rw [hshows.printed_about, hshows'.printed_about, hfindings]
  have hcomplaints :
      (monitor.report state ⟨.all, occasions⟩).complaints.filter (·.isAbout account) =
        (monitor.report state' ⟨.all, occasions'⟩).complaints.filter (·.isAbout account) := by
    rw [hshows.complaints_about, hshows'.complaints_about, hfindings]
  simp only [share, stepFindings, hfindings, hprinted, hcomplaints, report_ledgers, hledgers,
    reduceCtorEq, if_false]

/-- Steps that agree about an account show the same about it, where the same ledger is stored for
it. -/
theorem share_congr {step other : Step} (hagree : step.AgreesAbout monitor account other)
    (hledger : state.ledgers account = state'.ledgers account)
    (hrendered : (monitor.report state step).result ≠ .aborted)
    (hrendered' : (monitor.report state' other).result ≠ .aborted) :
    monitor.share account state step = monitor.share account state' other := by
  have hinquiries := hagree.roundInquiries
  have hanswer := hagree.answer 0
  have haction := hagree.action
  obtain ⟨action, occasions⟩ := step
  obtain ⟨action', occasions'⟩ := other
  obtain rfl : action = action' := haction
  cases action with
  | one asked => exact share_one_congr hanswer hledger
  | all => exact share_all_congr hinquiries hledger hrendered hrendered'

/-- Two runs of the same steps, in which no document ends a round, show the same about an account
if the backends of each visit give the same answer about it: the same outcomes of its visits, the
same documents and complaints about it, and the same ledger stored after each step, whatever the
backends answer about other accounts. -/
theorem shares_eq_of_agreesAbout {steps others : List Step}
    (hagree : List.Forall₂ (Step.AgreesAbout monitor account) steps others)
    (hledger : state.ledgers account = state'.ledgers account)
    (hrendered : ∀ report ∈ monitor.run state steps, report.result ≠ .aborted)
    (hrendered' : ∀ report ∈ monitor.run state' others, report.result ≠ .aborted) :
    monitor.shares account state steps = monitor.shares account state' others := by
  induction hagree generalizing state state' with
  | nil => rfl
  | cons hstep hrest ih =>
    rw [run, List.forall_mem_cons] at hrendered hrendered'
    have hshare := share_congr hstep hledger hrendered.1 hrendered'.1
    have hstored := congrArg Share.ledger hshare
    rw [shares, shares, hshare, ih hstored hrendered.2 hrendered'.2]

end Runs

/-- The backends of the small monitor give the same answer about its one account. -/
theorem sampleBackend_agree (status status' : ℕ) :
    sampleMonitor.AgreeAbout sampleAccount (sampleBackend status) (sampleBackend status') := by
  intro request hrequest
  have htarget : (Backend.request sampleMonitor.client sampleAccount).toOption.all
      (fun request ↦ request.url.target = samplePath) = true := by
    decide +kernel
  rw [hrequest] at htarget
  simp only [sampleBackend, of_decide_eq_true htarget, if_true]

/-- Two runs of the small monitor: the other account fails in the round of one run and not in that
of the other. -/
theorem sample_shares_eq :
    sampleMonitor.shares sampleAccount .initial
        [⟨.all, sampleOccasions 404⟩, ⟨.one sampleAccount, sampleOccasions 200⟩] =
      sampleMonitor.shares sampleAccount .initial
        [⟨.all, sampleOccasions 200⟩, ⟨.one sampleAccount, sampleOccasions 500⟩] ∧
      (sampleMonitor.report .initial
        ⟨.all, sampleOccasions 404⟩).state.ledgers sampleAccount = some {} := by
  have hrendered := results_ne_aborted sampleMonitor sampleMonitor_renders .initial
  have hagree (action : Action) (status status' : ℕ) :
      Step.AgreesAbout sampleMonitor sampleAccount ⟨action, sampleOccasions status⟩
        ⟨action, sampleOccasions status'⟩ :=
    ⟨rfl, fun _ ↦ sampleBackend_agree status status'⟩
  refine ⟨shares_eq_of_agreesAbout ?_ rfl (hrendered _) (hrendered _), by decide +kernel⟩
  exact .cons (hagree .all 404 200) (.cons (hagree _ 200 500) .nil)

end RunningBalance.Monitor
