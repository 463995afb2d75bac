import RunningBalance.Proofs.Ledger.Event

/-!
# Which fault a reconciliation reports

One bad event is enough to leave an account without a ledger, wherever it stands and whether or not
its row would have been dropped. `reconcile_fails_at_first_bad_event` says so, and that the fault
reported is the one of the first bad event, the transfer-ins coming before the chain transfers: it
names that event and quotes its text as it was sent.
-/

set_option autoImplicit false
set_option relaxedAutoImplicit false

namespace RunningBalance

namespace Event

/-- An event is bad if it has no date, a date that cannot be read, or an amount that is no run of
digits. -/
def IsBad (event : Event) : Prop :=
  event.dateText = none ∨ (∃ text, event.dateText = some text ∧ Timestamp.read? text = none) ∨
    ¬Amount.IsNumeral event.amountText

/-- A bad event is one with which something is at fault. -/
theorem isBad_iff {event : Event} : event.IsBad ↔ ∃ fault, event.AtFault fault := by
  constructor
  · rintro (hdate | ⟨text, hdate, hread⟩ | hamount)
    · exact ⟨_, .undated hdate⟩
    · exact ⟨_, .misdated hdate hread⟩
    · -- An event with a bad amount is reported for its date where that is bad too.
      cases hdate : event.dateText with
      | none => exact ⟨_, .undated hdate⟩
      | some text =>
        cases hread : Timestamp.read? text with
        | none => exact ⟨_, .misdated hdate hread⟩
        | some date => exact ⟨_, .amount (by simp [instant?, hdate, hread]) hamount⟩
  · rintro ⟨fault, hfault⟩
    cases hfault with
    | undated hdate => exact .inl hdate
    | misdated hdate hread => exact .inr (.inl ⟨_, hdate, hread⟩)
    | amount hinstant hamount => exact .inr (.inr hamount)

end Event

/-- A reconciliation fails exactly when some event is bad, and reports the fault of the first bad
event, transfer-ins before chain transfers. -/
theorem reconcile_fails_at_first_bad_event (chainTransfers : List ChainTransfer)
    (transfersIn : List TransferIn) :
    ((∃ fault, reconcile chainTransfers transfersIn = .error fault) ↔
        ∃ event ∈ events chainTransfers transfersIn, event.IsBad) ∧
      ∀ fault, reconcile chainTransfers transfersIn = .error fault ↔
        ∃ before event after, events chainTransfers transfersIn = before ++ event :: after ∧
          (∀ earlier ∈ before, ¬earlier.IsBad) ∧ event.AtFault fault := by
  have hfirst (fault : Ledger.Fault) :
      reconcile chainTransfers transfersIn = .error fault ↔
        ∃ before event after, events chainTransfers transfersIn = before ++ event :: after ∧
          (∀ earlier ∈ before, ¬earlier.IsBad) ∧ event.AtFault fault := by
    rw [reconcile_eq_error_iff]
    simp only [Event.isBad_iff, not_exists]
  refine ⟨⟨?_, ?_⟩, hfirst⟩
  · rintro ⟨fault, hfault⟩
    obtain ⟨before, event, after, hsplit, -, hevent⟩ := (hfirst fault).1 hfault
    exact ⟨event, by simp [hsplit], Event.isBad_iff.2 ⟨fault, hevent⟩⟩
  · rintro ⟨event, hmem, hbad⟩
    cases houtcome : reconcile chainTransfers transfersIn with
    | error fault => exact ⟨fault, rfl⟩
    | ok ledger =>
      -- Every event of a ledger has been read, so none of them is bad.
      obtain ⟨ms, hread, -⟩ := reconcile_eq_ok_iff.1 houtcome
      obtain ⟨m, hm, rfl⟩ := hread.exists_of_mem hmem
      obtain ⟨fault, hfault⟩ := Event.isBad_iff.1 hbad
      have hmovement := Event.movement_eq_ok_iff.2 ⟨rfl, hread.isRead m hm⟩
      exact absurd hfault (Event.exists_movement_iff.1 ⟨m, hmovement⟩ fault)

end RunningBalance
