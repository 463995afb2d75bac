import RunningBalance.Proofs.Ledger.Reordering

/-!
# A ledger made of its own events

The events of a ledger's rows can be taken apart by kind, each kind in the order of its rows
(`chainTransfers`, `transfersIn`). Putting them together again takes every row back to its place
(`sort_separated`): rows stand by instant, and of one instant the transfer-ins first. The first row
is a transfer-in, so nothing is dropped this time (`ofMovements_separated`). `reconcile_replay` is
the main statement.
-/

set_option autoImplicit false
set_option relaxedAutoImplicit false

namespace RunningBalance

namespace Event

def chainTransfer? : Event → Option ChainTransfer
  | .chainTransfer transfer => some transfer
  | .transferIn _ => none

def transferIn? : Event → Option TransferIn
  | .chainTransfer _ => none
  | .transferIn transfer => some transfer

end Event

namespace Ledger

/-- The chain transfers of the rows, the oldest row first. -/
def chainTransfers (ledger : Ledger) : List ChainTransfer :=
  ledger.chronological.filterMap (·.origin.chainTransfer?)

/-- The transfer-ins of the rows, the oldest row first. -/
def transfersIn (ledger : Ledger) : List TransferIn :=
  ledger.chronological.filterMap (·.origin.transferIn?)

/-- Movements by kind: the debits, and then the credits. -/
def separated (ms : List Movement) : List Movement :=
  ms.filter (!isCredit ·) ++ ms.filter isCredit

theorem mem_separated {m : Movement} {ms : List Movement} : m ∈ separated ms ↔ m ∈ ms := by
  rw [separated, List.mem_append, List.mem_filter, List.mem_filter, ← and_or_left]
  cases isCredit m <;> simp

/-- The events of the debits are the transfer-ins. -/
theorem origin_debits (ms : List Movement) :
    (ms.filter (!isCredit ·)).map Movement.origin =
      (ms.filterMap (·.origin.transferIn?)).map .transferIn := by
  induction ms with
  | nil => rfl
  | cons m ms ih =>
    obtain ⟨date, delta, origin⟩ := m
    cases origin with
    | chainTransfer transfer => exact ih
    | transferIn transfer => exact congrArg (Event.transferIn transfer :: ·) ih

/-- The events of the credits are the chain transfers. -/
theorem origin_credits (ms : List Movement) :
    (ms.filter isCredit).map Movement.origin =
      (ms.filterMap (·.origin.chainTransfer?)).map .chainTransfer := by
  induction ms with
  | nil => rfl
  | cons m ms ih =>
    obtain ⟨date, delta, origin⟩ := m
    cases origin with
    | chainTransfer transfer => exact congrArg (Event.chainTransfer transfer :: ·) ih
    | transferIn transfer => exact ih

/-- The events of a ledger of movements are those of the movements that it shows. -/
theorem events_ofMovements (ms : List Movement) :
    events (ofMovements ms).chainTransfers (ofMovements ms).transfersIn =
      (separated (shown ms)).map Movement.origin := by
  have hrows {β : Type} (pick : Event → Option β) :
      (ofMovements ms).chronological.filterMap (pick ·.origin) =
        (shown ms).filterMap (pick ·.origin) := by
    rw [chronological_ofMovements, ← shown]
    conv_rhs => rw [← accumulate_movement 0 (shown ms), List.filterMap_map]
    rfl
  rw [events, chainTransfers, transfersIn, hrows, hrows, ← origin_debits, ← origin_credits,
    ← List.map_append, separated]

section Separation

variable {chainTransfers : List ChainTransfer} {transfersIn : List TransferIn}
  {ms : List Movement}

/-- The movements that are shown are read off their events, also by kind. -/
theorem areRead_separated (hread : AreRead ms (events chainTransfers transfersIn)) :
    AreRead (separated (shown ms))
      (events (ofMovements ms).chainTransfers (ofMovements ms).transfersIn) where
  origin := (events_ofMovements ms).symm
  isRead m hm := hread.isRead m (mem_of_mem_shown (mem_separated.1 hm))

/-- Sorting takes what is shown back to its place. -/
theorem sort_separated (hread : AreRead ms (events chainTransfers transfersIn)) :
    sort (separated (shown ms)) = shown ms := by
  have horder : (shown ms).Pairwise fun a b ↦
      a.date < b.date ∨ a.date = b.date ∧ (!isCredit b → !isCredit a) := by
    refine (pairwise_shown hread).imp fun {a b} hle ↦ ?_
    refine (group_le_iff.1 hle).imp_right (And.imp_right fun hcredit hdebit ↦ ?_)
    rw [Bool.not_eq_true', ← Bool.not_eq_true] at hdebit ⊢
    exact mt hcredit hdebit
  have hnot : (shown ms).filter isCredit = (shown ms).filter fun m ↦ !!isCredit m := by
    simp only [Bool.not_not]
  rw [sort_eq_sortByKey, separated, hnot]
  exact StableSort.sortByKey_filter_append_filter_not horder

/-- The ledger of what is shown has the same rows and drops nothing. -/
theorem ofMovements_separated (hread : AreRead ms (events chainTransfers transfersIn)) :
    ofMovements (separated (shown ms)) = { ofMovements ms with dropped := 0 } := by
  have hstart : (shown ms).dropWhile isCredit = shown ms :=
    List.dropWhile_idempotent isCredit (sort ms)
  have hnone : (shown ms).takeWhile isCredit = [] := by
    have hsplit := List.takeWhile_append_dropWhile (p := isCredit) (l := shown ms)
    rw [hstart] at hsplit
    exact List.append_left_eq_self.1 hsplit
  rw [ofMovements, sort_separated hread, hstart, hnone]
  rfl

end Separation

end Ledger

section Reconciliation

variable {chainTransfers : List ChainTransfer} {transfersIn : List TransferIn} {ledger : Ledger}

/-- The events of the rows of a ledger make a ledger with the same rows, and none of them is
dropped. -/
theorem reconcile_replay (h : reconcile chainTransfers transfersIn = .ok ledger) :
    reconcile ledger.chainTransfers ledger.transfersIn = .ok { ledger with dropped := 0 } := by
  obtain ⟨ms, hread, rfl⟩ := reconcile_eq_ok_iff.1 h
  exact reconcile_eq_ok_iff.2
    ⟨_, Ledger.areRead_separated hread, Ledger.ofMovements_separated hread⟩

/-- The small account drops a chain transfer, but none of the events that it shows. -/
theorem sample_replay : ∃ ledger, reconcile sampleChainTransfers sampleTransfersIn = .ok ledger ∧
    ledger.size = 4 ∧ ledger.dropped = 1 ∧
    reconcile ledger.chainTransfers ledger.transfersIn = .ok { ledger with dropped := 0 } := by
  obtain ⟨ledger, hledger, hsize, hdropped, -⟩ := reconcile_sample
  exact ⟨ledger, hledger, hsize, hdropped, reconcile_replay hledger⟩

end Reconciliation

end RunningBalance
