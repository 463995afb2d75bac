import RunningBalance.Proofs.Ledger.Opening

/-!
# What later events leave as it was

A ledger up to an instant is the ledger of the events up to that instant: later events add rows and
change none. Sorting and dropping act on the movements up to an instant as if there were no others
(`chronological_filter_date`), and so does the sum of the balances, since what is later stands
behind. `reconcile_until` says so of a reconciliation, together with what it counts as dropped.
-/

set_option autoImplicit false
set_option relaxedAutoImplicit false

namespace RunningBalance

/-- Whether an event is dated, and not later than an instant. -/
def Event.isUntil (bound : Instant) (event : Event) : Bool :=
  event.instant?.any (· ≤ bound)

namespace Ledger

section Until

variable (ms : List Movement) (bound : Instant)

/-- Sorted movements are those up to an instant, sorted on their own, and then the later ones. -/
theorem sort_eq_append : sort ms = sort (ms.filter fun m ↦ m.date ≤ bound) ++
    (sort ms).filter fun m ↦ !decide (m.date ≤ bound) := by
  have hsorted : (sort ms).Pairwise fun a b ↦ a.date ≤ b.date :=
    StableSort.pairwise_key_le Movement.date ms
  rw [sort_eq_sortByKey (ms.filter _), ← StableSort.filter_sortByKey, ← sort_eq_sortByKey]
  refine (StableSort.filter_append_filter_not (hsorted.imp fun hle hbound ↦ ?_)).symm
  rw [decide_eq_true_eq] at hbound ⊢
  exact hle.trans hbound

/-- The ledger of the movements up to an instant has the rows up to it. -/
theorem chronological_filter_date :
    (ofMovements (ms.filter fun m ↦ m.date ≤ bound)).chronological =
      (ofMovements ms).chronological.filter fun entry ↦ entry.date ≤ bound := by
  let early := sort (ms.filter fun m ↦ m.date ≤ bound)
  let late := (sort ms).filter fun m ↦ !decide (m.date ≤ bound)
  have hsplit : ∃ later, (sort ms).dropWhile isCredit = early.dropWhile isCredit ++ later ∧
      later ⊆ late := by
    rw [sort_eq_append ms bound, List.dropWhile_append]
    split
    · rename_i hempty
      refine ⟨late.dropWhile isCredit, ?_, (List.dropWhile_sublist _).subset⟩
      rw [List.isEmpty_iff.1 hempty, List.nil_append]
    · exact ⟨late, rfl, List.Subset.refl late⟩
  obtain ⟨later, hrows, hlater⟩ := hsplit
  rw [chronological_ofMovements, chronological_ofMovements, hrows]
  refine (filter_accumulate (fun m ↦ m.date ≤ bound) 0 (fun m hm ↦ ?_) fun m hm ↦ ?_).1.symm
  · have hearly : m ∈ ms.filter fun m ↦ m.date ≤ bound :=
      mem_sort.1 ((List.dropWhile_sublist _).subset hm)
    exact (List.mem_filter.1 hearly).2
  · simpa using (List.mem_filter.1 (hlater hm)).2

/-- The movements up to an instant drop the same as all movements do if a debit is among them. -/
theorem dropped_filter_date {m : Movement} (hm : m ∈ ms) (hdebit : isCredit m = false)
    (hbound : m.date ≤ bound) :
    (ofMovements (ms.filter fun m ↦ m.date ≤ bound)).dropped = (ofMovements ms).dropped := by
  have hearly : m ∈ sort (ms.filter fun m ↦ m.date ≤ bound) :=
    mem_sort.2 (List.mem_filter.2 ⟨hm, decide_eq_true hbound⟩)
  have hshort : ((sort (ms.filter fun m ↦ m.date ≤ bound)).takeWhile isCredit).length ≠
      (sort (ms.filter fun m ↦ m.date ≤ bound)).length := by
    intro hlength
    have hall := (List.takeWhile_prefix isCredit).eq_of_length hlength
    rw [← hall] at hearly
    rw [List.mem_takeWhile_imp hearly] at hdebit
    cases hdebit
  rw [ofMovements, ofMovements, sort_eq_append ms bound, List.takeWhile_append, if_neg hshort]

end Until

end Ledger

section Reconciliation

variable {chainTransfers : List ChainTransfer} {transfersIn : List TransferIn} {ledger : Ledger}

/-- The events up to an instant make a ledger if all events do, and its rows are those of the full
ledger up to that instant, with their changes and balances. It drops what the full ledger does if
some transfer-in is up to the instant, and otherwise all chain transfers up to it. -/
theorem reconcile_until (h : reconcile chainTransfers transfersIn = .ok ledger)
    (bound : Instant) :
    ∃ earlier,
      reconcile (chainTransfers.filter fun transfer ↦ (Event.chainTransfer transfer).isUntil bound)
          (transfersIn.filter fun transfer ↦ (Event.transferIn transfer).isUntil bound) =
        .ok earlier ∧
      earlier.chronological = (ledger.chronological.filter fun entry ↦ entry.date ≤ bound) ∧
      ((∃ transfer ∈ transfersIn, (Event.transferIn transfer).isUntil bound) →
        earlier.dropped = ledger.dropped) ∧
      ((∀ transfer ∈ transfersIn, ¬(Event.transferIn transfer).isUntil bound) →
        earlier.dropped = chainTransfers.countP fun transfer ↦
          (Event.chainTransfer transfer).isUntil bound) := by
  obtain ⟨ms, hread, rfl⟩ := reconcile_eq_ok_iff.1 h
  have huntil : AreRead (ms.filter fun m ↦ m.date ≤ bound)
      (events
        (chainTransfers.filter fun transfer ↦ (Event.chainTransfer transfer).isUntil bound)
        (transfersIn.filter fun transfer ↦ (Event.transferIn transfer).isUntil bound)) := by
    rw [← filter_events]
    exact hread.filter (· ≤ bound)
  refine ⟨_, reconcile_eq_ok_iff.2 ⟨_, huntil, rfl⟩, Ledger.chronological_filter_date ms bound,
    ?_, ?_⟩
  · rintro ⟨transfer, hmem, hbound⟩
    obtain ⟨m, hm, horigin⟩ := hread.exists_of_mem (transferIn_mem_events.2 hmem)
    have hinstant := (hread.isRead m hm).date
    rw [horigin] at hinstant
    refine Ledger.dropped_filter_date ms bound hm ?_ ?_
    · simp [Ledger.isCredit, horigin, Event.source]
    · simpa [Event.isUntil, hinstant] using hbound
  · intro hnone
    have hnil : transfersIn.filter
        (fun transfer ↦ (Event.transferIn transfer).isUntil bound) = [] :=
      List.filter_eq_nil_iff.2 hnone
    rw [Ledger.dropped_ofMovements_of_nil huntil hnil, List.countP_eq_length_filter]

/-- The instant of the earlier transfer-in of the small account. -/
def sampleBound : Instant :=
  { seconds := 1704153600, nanos := 0 }

/-- Up to its earlier transfer-in the small account shows two of its four rows, and the chain
transfer before them is dropped as in the full ledger. -/
theorem sample_until : ∃ ledger earlier,
    reconcile sampleChainTransfers sampleTransfersIn = .ok ledger ∧ ledger.size = 4 ∧
      reconcile
          (sampleChainTransfers.filter fun transfer ↦
            (Event.chainTransfer transfer).isUntil sampleBound)
          (sampleTransfersIn.filter fun transfer ↦
            (Event.transferIn transfer).isUntil sampleBound) = .ok earlier ∧
      earlier.chronological =
        (ledger.chronological.filter fun entry ↦ entry.date ≤ sampleBound) ∧
      earlier.size = 2 ∧ earlier.dropped = ledger.dropped ∧ ledger.dropped = 1 := by
  obtain ⟨ledger, hledger, hsize, hdropped, -⟩ := reconcile_sample
  obtain ⟨earlier, hearlier, hrows, hsome, -⟩ := reconcile_until hledger sampleBound
  have htransfer : ∃ transfer ∈ sampleTransfersIn,
      (Event.transferIn transfer).isUntil sampleBound := by
    decide +kernel
  refine ⟨ledger, earlier, hledger, hsize, hearlier, hrows, ?_, hsome htransfer, hdropped⟩
  have hcomputed : (reconcile
      (sampleChainTransfers.filter fun transfer ↦
        (Event.chainTransfer transfer).isUntil sampleBound)
      (sampleTransfersIn.filter fun transfer ↦
        (Event.transferIn transfer).isUntil sampleBound)).map Ledger.size = .ok 2 := by
    cbv
  rw [hearlier] at hcomputed
  exact Except.ok.inj hcomputed

end Reconciliation

end RunningBalance
