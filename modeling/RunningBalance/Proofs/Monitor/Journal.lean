import RunningBalance.Proofs.Monitor.Visit

/-!
# What a monitor has stored

The journal of a run lists the visits it made, each with what it met (`Monitor.journal`). It is
complete: a round that nothing ends visits all its accounts (`roundJournal_of_not_aborted`), and the
requests of the run are those of the journal (`requests_run`). The stored ledgers are what the
answers of the journal leave, taken in turn (`ledgers_stateAfter`), so that a fact about them is an
induction over the journal; what a visit keeps of any other part of the state holds after a run as
well (`run_induction`).

After every run, and after every visit of a round that follows it, the ledger stored for an account
is the one reconciled from the last answer about the account that made a ledger, and there is none
if no answer did. A visit reports a change exactly when the ledger it makes is not the stored one
(`ledgers_follow_answers`).
-/

set_option autoImplicit false
set_option relaxedAutoImplicit false

namespace RunningBalance.Monitor

variable (monitor : Monitor)

/-! ### Journals -/

/-- The visits of a round that were made: those before something has ended it. -/
def roundJournal : Round → List Inquiry → List Inquiry
  | _, [] => []
  | round, inquiry :: inquiries =>
    if round.aborted then []
    else inquiry :: roundJournal (monitor.visit round inquiry) inquiries

/-- The visits of a step that starts where a state holds. -/
def stepJournal (state : State) (step : Step) : List Inquiry :=
  match step.action with
  | .one account => [{ account, occasion := step.occasions 0 }]
  | .all => monitor.roundJournal { state } (monitor.roundInquiries step.occasions)

/-- The visits of a run, from a state on. -/
def journal (state : State) : List Step → List Inquiry
  | [] => []
  | step :: steps =>
    monitor.stepJournal state step ++ journal (monitor.report state step).state steps

/-- The answer to an inquiry is about the account and makes the ledger. -/
def Inquiry.Makes (inquiry : Inquiry) (account : Account) (ledger : Ledger) : Prop :=
  inquiry.account = account ∧ monitor.Answers inquiry.occasion.backend account (.ok ledger)

/-- What is stored for an account if the last answer about it that made a ledger decides. -/
inductive IsLatest (inquiries : List Inquiry) (account : Account) : Option Ledger → Prop
  | absent (hnone : ∀ inquiry ∈ inquiries, ∀ ledger, ¬inquiry.Makes monitor account ledger) :
      IsLatest inquiries account none
  | last {before after : List Inquiry} {inquiry : Inquiry} {ledger : Ledger}
      (hinquiries : inquiries = before ++ inquiry :: after)
      (hmakes : inquiry.Makes monitor account ledger)
      (hlater : ∀ later ∈ after, ∀ other, ¬later.Makes monitor account other) :
      IsLatest inquiries account (some ledger)

/-! ### The stored ledgers follow the journal -/

/-- The ledgers stored after one more inquiry. -/
def store (ledgers : Account → Option Ledger) (inquiry : Inquiry) : Account → Option Ledger :=
  stored ledgers inquiry.account (monitor.reading inquiry.occasion.backend inquiry.account)

theorem visits_of_aborted {round : Round} (haborted : round.aborted = true)
    (inquiries : List Inquiry) : monitor.visits round inquiries = round := by
  induction inquiries with
  | nil => rfl
  | cons inquiry inquiries ih =>
    rw [visits_cons, visit_of_aborted haborted]
    exact ih

theorem roundJournal_of_aborted {round : Round} (haborted : round.aborted = true)
    (inquiries : List Inquiry) : monitor.roundJournal round inquiries = [] := by
  cases inquiries with
  | nil => rfl
  | cons inquiry inquiries => rw [roundJournal, if_pos haborted]

theorem roundJournal_cons {round : Round} (haborted : round.aborted = false) (inquiry : Inquiry)
    (inquiries : List Inquiry) :
    monitor.roundJournal round (inquiry :: inquiries) =
      inquiry :: monitor.roundJournal (monitor.visit round inquiry) inquiries := by
  rw [roundJournal, if_neg (ne_true_of_eq_false haborted)]

/-- A round leaves the ledgers that its journal leaves. -/
theorem ledgers_visits (round : Round) (inquiries : List Inquiry) :
    (monitor.visits round inquiries).state.ledgers =
      (monitor.roundJournal round inquiries).foldl monitor.store round.state.ledgers := by
  induction inquiries generalizing round with
  | nil => rfl
  | cons inquiry inquiries ih =>
    cases haborted : round.aborted with
    | true =>
      rw [visits_of_aborted monitor haborted, roundJournal_of_aborted monitor haborted,
        List.foldl_nil]
    | false =>
      rw [visits_cons, ih, (visit_of_not_aborted haborted).1, refresh_ledgers,
        roundJournal_cons monitor haborted, List.foldl_cons, store]

/-- The metrics are left without a look at the ledgers or a request. -/
theorem finish_ledgers_requests (round : Round) :
    (monitor.finish round).state.ledgers = round.state.ledgers ∧
      (monitor.finish round).requests = round.requests := by
  rw [finish]
  split
  · exact ⟨rfl, rfl⟩
  · split <;> exact ⟨rfl, rfl⟩

theorem ledgers_report (state : State) (step : Step) :
    (monitor.report state step).state.ledgers =
      (monitor.stepJournal state step).foldl monitor.store state.ledgers := by
  rw [report, stepJournal]
  cases step.action with
  | one account =>
    simp only [Visit.report, List.foldl_cons, List.foldl_nil, store]
    rw [refresh_ledgers]
  | all =>
    simp only [roundReport]
    rw [refreshAll_eq_finish, (finish_ledgers_requests monitor _).1, ledgers_visits]

/-- A run goes on from the state that its first steps have left. -/
theorem run_append (state : State) (steps more : List Step) :
    monitor.run state (steps ++ more) =
      monitor.run state steps ++ monitor.run (monitor.stateAfter state steps) more := by
  induction steps generalizing state with
  | nil => rfl
  | cons step steps ih =>
    rw [List.cons_append, run, run, ih]
    rfl

theorem stateAfter_concat (state : State) (steps : List Step) (step : Step) :
    monitor.stateAfter state (steps ++ [step]) =
      (monitor.report (monitor.stateAfter state steps) step).state := by
  rw [stateAfter, List.foldl_append]
  rfl

/-- The stored ledgers after a run are what its journal leaves. -/
theorem ledgers_stateAfter (state : State) (steps : List Step) :
    (monitor.stateAfter state steps).ledgers =
      (monitor.journal state steps).foldl monitor.store state.ledgers := by
  induction steps generalizing state with
  | nil => rfl
  | cons step steps ih =>
    rw [journal, List.foldl_append, ← ledgers_report]
    exact ih _

/-! ### The journal is complete -/

section Completeness

variable {monitor} {round : Round} {inquiries : List Inquiry}

/-- Visits do not undo the end of a round. -/
theorem aborted_of_visits (haborted : (monitor.visits round inquiries).aborted = false) :
    round.aborted = false := by
  by_contra hround
  rw [Bool.not_eq_false] at hround
  rw [visits_of_aborted monitor hround, hround] at haborted
  exact Bool.noConfusion haborted

/-- A round that nothing has ended has made all its visits. -/
theorem roundJournal_of_not_aborted (haborted : (monitor.visits round inquiries).aborted = false) :
    monitor.roundJournal round inquiries = inquiries := by
  induction inquiries generalizing round with
  | nil => rfl
  | cons inquiry inquiries ih =>
    rw [roundJournal_cons monitor (aborted_of_visits haborted), ih haborted]

end Completeness

/-- The request of an inquiry, if it can be made. -/
def Inquiry.requests (inquiry : Inquiry) : List Request :=
  (Backend.request monitor.client inquiry.account).toOption.toList

theorem requests_visits (round : Round) (inquiries : List Inquiry) :
    (monitor.visits round inquiries).requests = round.requests ++
      (monitor.roundJournal round inquiries).flatMap (Inquiry.requests monitor) := by
  induction inquiries generalizing round with
  | nil => exact (List.append_nil round.requests).symm
  | cons inquiry inquiries ih =>
    cases haborted : round.aborted with
    | true =>
      rw [visits_of_aborted monitor haborted, roundJournal_of_aborted monitor haborted,
        List.flatMap_nil, List.append_nil]
    | false =>
      rw [visits_cons, ih, (visit_of_not_aborted haborted).2, refresh_requests,
        Backend.fetch_requests, roundJournal_cons monitor haborted, List.flatMap_cons,
        Inquiry.requests, List.append_assoc]

theorem requests_report (state : State) (step : Step) :
    (monitor.report state step).requests =
      (monitor.stepJournal state step).flatMap (Inquiry.requests monitor) := by
  rw [report, stepJournal]
  cases step.action with
  | one account =>
    simp only [Visit.report, List.flatMap_cons, List.flatMap_nil, List.append_nil,
      Inquiry.requests]
    rw [refresh_requests, Backend.fetch_requests]
  | all =>
    simp only [roundReport]
    rw [refreshAll_eq_finish, (finish_ledgers_requests monitor _).2, requests_visits,
      List.nil_append]

/-- The requests of a run are those of its journal and no others. -/
theorem requests_run (state : State) (steps : List Step) :
    (monitor.run state steps).flatMap Report.requests =
      (monitor.journal state steps).flatMap (Inquiry.requests monitor) := by
  induction steps generalizing state with
  | nil => rfl
  | cons step steps ih =>
    rw [run, List.flatMap_cons, journal, List.flatMap_append, ih, requests_report]

/-! ### What all visits keep -/

section Induction

variable {monitor} {P : List Inquiry → State → Prop}

/-- The end of a round changes nothing but what the metrics file holds. -/
theorem exists_finish_state (round : Round) :
    ∃ exposed, (monitor.finish round).state = { round.state with exposed } := by
  rw [finish]
  split
  · exact ⟨round.state.exposed, rfl⟩
  · split
    · exact ⟨round.state.exposed, rfl⟩
    · exact ⟨some round.state.metrics.exposition, rfl⟩
    · exact ⟨round.state.exposed, rfl⟩

theorem visits_induction
    (hvisit : ∀ past state inquiry, P past state →
      P (past ++ [inquiry]) (monitor.refresh inquiry.occasion inquiry.account state).state)
    {past : List Inquiry} {round : Round} (hround : P past round.state)
    (inquiries : List Inquiry) :
    P (past ++ monitor.roundJournal round inquiries) (monitor.visits round inquiries).state := by
  induction inquiries generalizing round past with
  | nil =>
    rw [roundJournal, List.append_nil]
    exact hround
  | cons inquiry inquiries ih =>
    cases haborted : round.aborted with
    | true =>
      rw [visits_of_aborted monitor haborted, roundJournal_of_aborted monitor haborted,
        List.append_nil]
      exact hround
    | false =>
      rw [visits_cons, roundJournal_cons monitor haborted, List.append_cons]
      refine ih ?_
      rw [(visit_of_not_aborted haborted).1]
      exact hvisit past round.state inquiry hround

/-- What every visit keeps of the visits made so far and the state, and what does not depend on the
metrics file, holds after every run. -/
theorem run_induction
    (hvisit : ∀ past state inquiry, P past state →
      P (past ++ [inquiry]) (monitor.refresh inquiry.occasion inquiry.account state).state)
    (hexposed : ∀ past state exposed, P past state → P past { state with exposed })
    {past : List Inquiry} {state : State} (hstate : P past state) (steps : List Step) :
    P (past ++ monitor.journal state steps) (monitor.stateAfter state steps) := by
  induction steps generalizing state past with
  | nil =>
    rw [journal, List.append_nil]
    exact hstate
  | cons step steps ih =>
    rw [journal, ← List.append_assoc]
    refine ih ?_
    rw [report, stepJournal]
    cases step.action with
    | one account =>
      simp only [Visit.report]
      exact hvisit past state { account, occasion := step.occasions 0 } hstate
    | all =>
      have hround : P past (Round.state { state }) := hstate
      have hvisits := visits_induction hvisit hround (monitor.roundInquiries step.occasions)
      simp only [roundReport]
      obtain ⟨exposed, hfinish⟩ := @exists_finish_state monitor
        (monitor.visits { state } (monitor.roundInquiries step.occasions))
      rw [refreshAll_eq_finish, hfinish]
      exact hexposed _ _ exposed hvisits

end Induction

/-! ### The last answer decides -/

variable {monitor} {inquiries : List Inquiry} {account : Account} {held : Option Ledger}

/-- An inquiry that makes no ledger for an account leaves the last one that did. -/
theorem IsLatest.append_of_not_makes (hlatest : monitor.IsLatest inquiries account held)
    {inquiry : Inquiry} (hinquiry : ∀ ledger, ¬inquiry.Makes monitor account ledger) :
    monitor.IsLatest (inquiries ++ [inquiry]) account held := by
  cases hlatest with
  | absent hnone =>
    refine .absent fun asked hasked ↦ ?_
    rcases List.mem_append.1 hasked with hbefore | hlast
    · exact hnone asked hbefore
    · rwa [List.mem_singleton.1 hlast]
  | @last before after source ledger hinquiries hmakes hlater =>
    have hsplit : inquiries ++ [inquiry] = before ++ source :: (after ++ [inquiry]) := by
      rw [hinquiries, List.append_assoc, List.cons_append]
    refine .last hsplit hmakes fun asked hasked ↦ ?_
    rcases List.mem_append.1 hasked with hafter | hlast
    · exact hlater asked hafter
    · rwa [List.mem_singleton.1 hlast]

/-- One more inquiry: if the last answers decide what is stored, they do so after it. -/
theorem IsLatest.append {ledgers : Account → Option Ledger}
    (hlatest : monitor.IsLatest inquiries account (ledgers account)) (inquiry : Inquiry) :
    monitor.IsLatest (inquiries ++ [inquiry]) account (monitor.store ledgers inquiry account) := by
  rcases eq_or_ne account inquiry.account with rfl | hasked
  · cases hreading : monitor.reading inquiry.occasion.backend inquiry.account with
    | error fault =>
      rw [store, hreading, stored]
      refine hlatest.append_of_not_makes fun ledger hmakes ↦ ?_
      have hledger := answers_iff.1 hmakes.2
      rw [hreading] at hledger
      cases hledger
    | ok ledger =>
      rw [store, hreading, stored, Function.update_self]
      exact .last rfl ⟨rfl, answers_iff.2 hreading⟩
        fun later hlater ↦ absurd hlater List.not_mem_nil
  · rw [store, stored_of_ne hasked]
    exact hlatest.append_of_not_makes fun ledger hmakes ↦ hasked hmakes.1.symm

/-- From nothing stored, the last answers decide after every journal. -/
theorem isLatest_foldl_store (inquiries : List Inquiry) (account : Account) :
    monitor.IsLatest inquiries account
      (inquiries.foldl monitor.store State.initial.ledgers account) := by
  induction inquiries using List.reverseRecOn with
  | nil => exact .absent fun inquiry hinquiry ↦ absurd hinquiry List.not_mem_nil
  | append_singleton inquiries inquiry ih =>
    rw [List.foldl_append, List.foldl_cons, List.foldl_nil]
    exact ih.append inquiry

/-- After every run, and after any number of visits of a further round, the ledger stored for an
account is the one that the last answer about it to make a ledger made, and none if no answer did. A
visit wherever a state holds finds a change exactly if it makes a ledger other than the stored one,
and finds none exactly if it makes the stored one. The ledger it makes replaces that of its account
alone; it fails at the stage where the answer does, and then every ledger stays. -/
theorem ledgers_follow_answers (monitor : Monitor) :
    (∀ steps account,
      monitor.IsLatest (monitor.journal State.initial steps) account
        ((monitor.stateAfter State.initial steps).ledgers account)) ∧
    (∀ steps occasions count account,
      let round : Round := { state := monitor.stateAfter State.initial steps }
      let inquiries := (monitor.roundInquiries occasions).take count
      monitor.IsLatest
        (monitor.journal State.initial steps ++ monitor.roundJournal round inquiries)
        account ((monitor.visits round inquiries).state.ledgers account)) ∧
    ∀ occasion account state,
      let visit := monitor.refresh occasion account state
      (∀ ledger, visit.outcome = .ok (some ledger) ↔
        monitor.Answers occasion.backend account (.ok ledger) ∧
          state.ledgers account ≠ some ledger) ∧
      (visit.outcome = .ok none ↔
        ∃ ledger, monitor.Answers occasion.backend account (.ok ledger) ∧
          state.ledgers account = some ledger) ∧
      (∀ fault, visit.outcome = .error fault ↔
        monitor.Answers occasion.backend account (.error fault)) ∧
      (∀ ledger, monitor.Answers occasion.backend account (.ok ledger) →
        visit.state.ledgers = Function.update state.ledgers account (some ledger)) ∧
      ∀ fault, monitor.Answers occasion.backend account (.error fault) →
        visit.state.ledgers = state.ledgers := by
  refine ⟨?_, ?_, ?_⟩
  · intro steps account
    rw [ledgers_stateAfter]
    exact isLatest_foldl_store _ account
  · intro steps occasions count account round inquiries
    rw [ledgers_visits, ledgers_stateAfter, ← List.foldl_append]
    exact isLatest_foldl_store _ account
  · intro occasion account state
    have hledgers := refresh_ledgers monitor occasion account state
    refine ⟨?_, ?_, ?_, ?_, ?_⟩
    · exact fun ledger ↦ refresh_changed_iff monitor occasion account state
    · exact refresh_unchanged_iff monitor occasion account state
    · exact fun fault ↦ refresh_failed_iff monitor occasion account state
    · intro ledger hledger
      rw [hledgers, hledger.reading_eq, stored]
    · intro fault hfault
      rw [hledgers, hfault.reading_eq, stored]

end RunningBalance.Monitor
