import RunningBalance.Proofs.Monitor.Target
import RunningBalance.Proofs.Program

/-!
# Runs in any surroundings

What visits meet is unknown while the program runs, but afterwards it can be told. So in any lawful
monad, of which `IO` is one, whatever comes of a round comes of a round where it is set what each
visit meets and whether the metrics can be written (`satisfiesM_refreshAllIn`), and the same holds
of the program (`satisfiesM_runIn`). What is known of the one is thereby known of the other.
-/

set_option autoImplicit false
set_option relaxedAutoImplicit false

namespace RunningBalance

/-- What a metrics target may turn out to be: something may be in the way of a file. -/
inductive MetricsTarget.Turns : MetricsTarget → MetricsTarget → Prop
  | same (target : MetricsTarget) : Turns target target
  | hindered (path cause : String) : Turns (.file path) (.unwritable path cause)

variable {m : Type → Type} [Monad m] [LawfulMonad m]

/-! ### Visits -/

/-- An exchange is one with a backend that gives the answer that came, whatever it is asked. -/
theorem Backend.satisfiesM_fetchIn (ask : Request → m (Except Outage Response))
    (client : BackendClient) (account : Account) :
    SatisfiesM (fun exchange ↦ ∃ answer, exchange = fetch client (fun _ ↦ answer) account)
      (fetchIn ask client account) := by
  rw [fetchIn]
  cases hrequest : Backend.request client account with
  | error obstacle => exact .pure ⟨.error .timeout, (fetch_of_error hrequest).symm⟩
  | ok request =>
    refine SatisfiesM.bind_pre (.of_true fun answer ↦ .pure ⟨answer, ?_⟩)
    rw [fetch_of_ok hrequest]

namespace Monitor

variable (surroundings : Surroundings m) (monitor : Monitor)

theorem satisfiesM_refreshIn (place : ℕ) (account : Account) (state : State) :
    SatisfiesM (fun visit ↦ ∃ occasion, visit = monitor.refresh occasion account state)
      (monitor.refreshIn surroundings place account state) := by
  refine (Backend.satisfiesM_fetchIn (surroundings.ask place) monitor.client account).bind ?_
  rintro exchange ⟨answer, hexchange⟩
  have hrefresh (seconds : Float) : monitor.refresh ⟨fun _ ↦ answer, seconds⟩ account state =
      .ofExchange account state seconds exchange := by
    rw [refresh_eq, hexchange]
  obtain ⟨fault | transfers, requests⟩ := exchange
  · exact .pure ⟨_, (hrefresh 0).symm⟩
  · exact SatisfiesM.bind_pre (.of_true fun seconds ↦ .pure ⟨_, (hrefresh seconds).symm⟩)

theorem satisfiesM_visitIn (place : ℕ) (round : Round) (account : Account) :
    SatisfiesM (fun later ↦ ∃ occasion, later = monitor.visit round ⟨account, occasion⟩)
      (monitor.visitIn surroundings place round account) := by
  rw [visitIn]
  split
  · next haborted =>
    exact .pure ⟨⟨fun _ ↦ .error .timeout, 0⟩, (visit_of_aborted haborted).symm⟩
  · next haborted =>
    rw [Bool.not_eq_true] at haborted
    refine (monitor.satisfiesM_refreshIn surroundings place account round.state).bind ?_
    rintro visit ⟨occasion, hvisit⟩
    have hlater : monitor.visit round ⟨account, occasion⟩ = round.after monitor account visit := by
      rw [visit_eq_after haborted, hvisit]
    obtain ⟨fault | _ | ledger, requests, state⟩ := visit
    · exact SatisfiesM.bind_pre (.of_true fun _ ↦ .pure ⟨occasion, hlater.symm⟩)
    · exact .pure ⟨occasion, hlater.symm⟩
    · rw [Round.after] at hlater
      cases hdocument : ledger.render? account monitor.display with
      | none =>
        simp only [hdocument] at hlater ⊢
        exact .pure ⟨occasion, hlater.symm⟩
      | some document =>
        simp only [hdocument] at hlater ⊢
        exact SatisfiesM.bind_pre (.of_true fun _ ↦ .pure ⟨occasion, hlater.symm⟩)

theorem satisfiesM_visitsIn (place : ℕ) (round : Round) (accounts : List Account) :
    SatisfiesM (fun later ↦ ∃ inquiries : List Inquiry,
        inquiries.map Inquiry.account = accounts ∧ later = monitor.visits round inquiries)
      (monitor.visitsIn surroundings place round accounts) := by
  induction accounts generalizing place round with
  | nil => exact .pure ⟨[], rfl, rfl⟩
  | cons account accounts ih =>
    refine (monitor.satisfiesM_visitIn surroundings place round account).bind ?_
    rintro _ ⟨occasion, rfl⟩
    refine (ih (place + 1) (monitor.visit round ⟨account, occasion⟩)).imp ?_
    rintro _ ⟨inquiries, rfl, rfl⟩
    exact ⟨⟨account, occasion⟩ :: inquiries, rfl, rfl⟩

/-! ### Rounds -/

/-- Visits to all accounts are those of a round, with what they meet. -/
theorem exists_roundInquiries {inquiries : List Inquiry}
    (haccounts : inquiries.map Inquiry.account = monitor.accounts) :
    ∃ occasions, monitor.roundInquiries occasions = inquiries := by
  let idle : Occasion := ⟨fun _ ↦ .error .timeout, 0⟩
  refine ⟨fun place ↦ (inquiries[place]?.map Inquiry.occasion).getD idle, ?_⟩
  refine List.ext_getElem (by simp [roundInquiries, ← haccounts]) fun place _ hplace ↦ ?_
  simp [roundInquiries, ← haccounts, hplace]

theorem satisfiesM_finishIn (round : Round) :
    SatisfiesM (fun later ↦ ∃ target, monitor.metricsTarget.Turns target ∧
        later = (monitor.withTarget target).finish round)
      (monitor.finishIn surroundings round) := by
  rw [finishIn]
  split
  · next haborted =>
    exact .pure ⟨_, .same _, (if_pos haborted).symm⟩
  · next haborted =>
    have hfinish (target : MetricsTarget) :
        (monitor.withTarget target).finish round = _ := if_neg haborted
    cases htarget : monitor.metricsTarget with
    | nowhere => exact .pure ⟨_, .same _, (hfinish .nowhere).symm⟩
    | unwritable path cause =>
      exact SatisfiesM.bind_pre
        (.of_true fun _ ↦ .pure ⟨_, .same _, (hfinish (.unwritable path cause)).symm⟩)
    | file path =>
      refine SatisfiesM.bind_pre (.of_true fun hindrance ↦ ?_)
      cases hindrance with
      | none => exact .pure ⟨_, .same _, (hfinish (.file path)).symm⟩
      | some cause =>
        exact SatisfiesM.bind_pre
          (.of_true fun _ ↦ .pure ⟨_, .hindered path cause,
            (hfinish (.unwritable path cause)).symm⟩)

/-- Whatever comes of a round comes of one in which it is set what each visit meets, and whether the
metrics can be written. -/
theorem satisfiesM_refreshAllIn (state : State) :
    SatisfiesM (fun round ↦ ∃ occasions target, monitor.metricsTarget.Turns target ∧
        round = (monitor.withTarget target).refreshAll occasions state)
      (monitor.refreshAllIn surroundings state) := by
  refine (monitor.satisfiesM_visitsIn surroundings 0 { state } monitor.accounts).bind ?_
  rintro _ ⟨inquiries, haccounts, rfl⟩
  obtain ⟨occasions, rfl⟩ := monitor.exists_roundInquiries haccounts
  refine (monitor.satisfiesM_finishIn surroundings _).imp ?_
  rintro _ ⟨target, hturns, rfl⟩
  refine ⟨occasions, target, hturns, ?_⟩
  rw [refreshAll_eq_finish, visits_withTarget]
  rfl

end Monitor

/-! ### The program -/

namespace Program

theorem satisfiesM_startIn (surroundings : Surroundings m)
    (goOn : Schedule → Monitor.State → m Unit) (monitor : Monitor) (schedule : Option String) :
    SatisfiesM (fun outcome ↦ ∃ occasions target, monitor.metricsTarget.Turns target ∧
        outcome = start (monitor.withTarget target) schedule occasions)
      (startIn surroundings goOn monitor schedule) := by
  refine (monitor.satisfiesM_refreshAllIn surroundings .initial).bind ?_
  rintro _ ⟨occasions, target, hturns, rfl⟩
  have hstart := start_eq (monitor.withTarget target) schedule occasions
  refine SatisfiesM.bind_pre (.of_true fun _ ↦ ?_)
  split
  · refine SatisfiesM.bind_pre (.of_true fun _ ↦ ?_)
    exact .pure ⟨occasions, target, hturns, hstart.symm⟩
  · exact .pure ⟨occasions, target, hturns, hstart.symm⟩

/-- Something may be in the way of whatever path is asked for. -/
theorem exists_metricsTarget {hindrance? : String → Option String} {path? : Option String}
    {target : MetricsTarget} (hturns : (metricsTarget hindrance? path?).Turns target) :
    ∃ later?, metricsTarget later? path? = target := by
  generalize htarget : metricsTarget hindrance? path? = before at hturns
  cases hturns with
  | same => exact ⟨hindrance?, htarget⟩
  | hindered path cause =>
    refine ⟨fun _ ↦ some cause, ?_⟩
    cases path? with
    | none => cases htarget
    | some path =>
      rw [metricsTarget] at htarget
      cases hhindrance : hindrance? path with
      | none =>
        rw [hhindrance] at htarget
        cases htarget
        rfl
      | some _ =>
        rw [hhindrance] at htarget
        cases htarget

/-- Settings that ask for a monitor ask for the same monitor where something is in the way of its
metrics. -/
theorem exists_monitorOf_withTarget {library : Backend.Library}
    {hindrance? : String → Option String} {settings : Settings} {monitor : Monitor}
    (hmonitor : monitorOf library hindrance? settings = .ok monitor) {target : MetricsTarget}
    (hturns : monitor.metricsTarget.Turns target) :
    ∃ hindrance?, monitorOf library hindrance? settings = .ok (monitor.withTarget target) := by
  simp only [monitorOf] at hmonitor ⊢
  cases haddresses : settings.addresses with
  | error fault =>
    rw [haddresses] at hmonitor
    cases hmonitor
  | ok accounts =>
    rw [haddresses] at hmonitor
    cases hmonitor
    obtain ⟨later?, hlater⟩ := exists_metricsTarget hturns
    refine ⟨later?, ?_⟩
    rw [hlater]
    rfl

/-- Whatever comes of the program comes of a run in which it is set what each visit meets, and
whether the metrics can be written. -/
theorem satisfiesM_runIn (surroundings : Settings → Surroundings m)
    (goOn : Settings → Monitor → Schedule → Monitor.State → m Unit) (environment : Environment)
    (files : Files) (library : Backend.Library) (hindrance? : String → Option String) :
    SatisfiesM (fun outcome ↦ ∃ hindrance? occasions,
        outcome = run environment files library hindrance? occasions)
      (runIn surroundings goOn environment files library hindrance?) := by
  let idle : ℕ → Occasion := fun _ ↦ ⟨fun _ ↦ .error .timeout, 0⟩
  simp only [run, runIn]
  cases hload : Settings.load environment files with
  | error fault => exact SatisfiesM.pure ⟨hindrance?, idle, rfl⟩
  | ok settings =>
    dsimp only
    cases hmonitor : monitorOf library hindrance? settings with
    | error fault =>
      refine SatisfiesM.pure ⟨hindrance?, idle, ?_⟩
      rw [hmonitor]
      rfl
    | ok monitor =>
      refine (satisfiesM_startIn (surroundings settings) (goOn settings monitor) monitor
        settings.schedule).imp ?_
      rintro _ ⟨occasions, target, hturns, rfl⟩
      obtain ⟨later?, hlater⟩ := exists_monitorOf_withTarget hmonitor hturns
      refine ⟨later?, occasions, ?_⟩
      rw [hlater, start]

end Program

end RunningBalance
