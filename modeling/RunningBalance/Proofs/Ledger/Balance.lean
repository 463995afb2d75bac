import RunningBalance.Proofs.Ledger.Event
import RunningBalance.Proofs.StableSort

/-!
# Running balances

The rows of a ledger are its movements with a balance added (`accumulate_movement`), and the balance
of a row is the sum of the changes up to and including it (`balance_of_accumulate`).
`reconcile_balances` says what this makes of a reconciliation: every row is that of one of the
events, with the instant and the signed amount that the event's texts denote, and balances are the
exact sums of changes, whatever their number and size.
-/

set_option autoImplicit false
set_option relaxedAutoImplicit false

namespace RunningBalance

/-- A row without its balance. -/
def Entry.movement (entry : Entry) : Movement where
  date := entry.date
  delta := entry.delta
  origin := entry.origin

/-- A row is that of an event if it has the event's name, the instant that the text of its date
denotes, and the change that the text of its amount denotes. -/
structure Entry.Records (entry : Entry) (event : Event) : Prop where
  origin : entry.origin = event
  id : entry.id = { source := event.source, number := event.number }
  date : event.instant? = some entry.date
  delta : ∃ amount, Amount.Denotes event.amountText amount ∧ entry.delta = event.signed amount

namespace Ledger

/-- The rows of a ledger have the names of their events. -/
def IsNamed (ledger : Ledger) : Prop :=
  ∀ entry ∈ ledger.entries, entry.id = entry.origin.id

/-- Accumulating adds balances and names, and changes nothing else. -/
theorem accumulate_movement (balance : ℤ) (ms : List Movement) :
    (accumulate balance ms).map Entry.movement = ms := by
  induction ms generalizing balance with
  | nil => rfl
  | cons m ms ih =>
    rw [accumulate, List.map_cons, ih]
    rfl

theorem accumulate_delta (balance : ℤ) (ms : List Movement) :
    (accumulate balance ms).map Entry.delta = ms.map Movement.delta := by
  conv_rhs => rw [← accumulate_movement balance ms, List.map_map]
  rfl

/-- A row is named after its event. -/
theorem id_of_mem_accumulate {balance : ℤ} {ms : List Movement} {entry : Entry}
    (h : entry ∈ accumulate balance ms) : entry.id = entry.origin.id := by
  induction ms generalizing balance with
  | nil => cases h
  | cons m ms ih =>
    rw [accumulate, List.mem_cons] at h
    rcases h with rfl | hlater
    · rfl
    · exact ih hlater

theorem length_accumulate (balance : ℤ) (ms : List Movement) :
    (accumulate balance ms).length = ms.length := by
  conv_rhs => rw [← accumulate_movement balance ms, List.length_map]

/-- The rows of movements are those of the movements. -/
theorem movement_mem_of_mem_accumulate {balance : ℤ} {ms : List Movement} {entry : Entry}
    (h : entry ∈ accumulate balance ms) : entry.movement ∈ ms := by
  rw [← accumulate_movement balance ms]
  exact List.mem_map_of_mem h

/-- Later movements add rows behind those of the earlier ones. -/
theorem accumulate_append (balance : ℤ) (earlier later : List Movement) :
    accumulate balance (earlier ++ later) =
      accumulate balance earlier ++
        accumulate (balance + (earlier.map Movement.delta).sum) later := by
  induction earlier generalizing balance with
  | nil => simp [accumulate]
  | cons m earlier ih =>
    rw [List.cons_append, accumulate, accumulate, ih, List.map_cons, List.sum_cons, add_assoc,
      List.cons_append]

/-- The balance of a row is the balance before the first row and all changes up to this one. -/
theorem balance_of_accumulate {balance : ℤ} {ms : List Movement} {earlier later : List Entry}
    {entry : Entry} (h : accumulate balance ms = earlier ++ entry :: later) :
    entry.balance = balance + (earlier.map Entry.delta).sum + entry.delta := by
  induction ms generalizing balance earlier with
  | nil => simp [accumulate] at h
  | cons m ms ih =>
    rw [accumulate] at h
    cases earlier with
    | nil =>
      obtain ⟨rfl, -⟩ := List.cons.inj h
      simp
    | cons first earlier =>
      obtain ⟨rfl, hrest⟩ := List.cons.inj h
      rw [ih hrest, List.map_cons, List.sum_cons, add_assoc balance]

/-- The rows of movements are taken apart like the movements, where those that pass a test stand
before the others. -/
theorem filter_accumulate (test : Movement → Bool) (balance : ℤ) {earlier later : List Movement}
    (hearlier : ∀ m ∈ earlier, test m) (hlater : ∀ m ∈ later, ¬test m) :
    (accumulate balance (earlier ++ later)).filter (fun entry ↦ test entry.movement) =
        accumulate balance earlier ∧
      (accumulate balance (earlier ++ later)).filter (fun entry ↦ !test entry.movement) =
        accumulate (balance + (earlier.map Movement.delta).sum) later := by
  rw [accumulate_append]
  refine StableSort.filter_append_eq (fun entry : Entry ↦ test entry.movement) ?_ ?_
  · intro entry hentry
    exact hearlier _ (movement_mem_of_mem_accumulate hentry)
  · intro entry hentry
    exact hlater _ (movement_mem_of_mem_accumulate hentry)

/-- The rows of a ledger of movements, the oldest first. -/
theorem chronological_ofMovements (ms : List Movement) :
    (ofMovements ms).chronological = accumulate 0 ((sort ms).dropWhile isCredit) := by
  rw [chronological, ofMovements, List.reverse_reverse]

/-- The rows of a ledger of movements are among these movements. -/
theorem movement_mem_of_mem_entries {ms : List Movement} {entry : Entry}
    (h : entry ∈ (ofMovements ms).entries) : entry.movement ∈ ms := by
  rw [← List.mem_reverse, ← chronological, chronological_ofMovements] at h
  have hmem := movement_mem_of_mem_accumulate h
  exact List.mem_mergeSort.1 ((List.dropWhile_sublist _).subset hmem)

theorem isNamed_ofMovements (ms : List Movement) : (ofMovements ms).IsNamed := by
  intro entry hentry
  rw [ofMovements, List.mem_reverse] at hentry
  exact id_of_mem_accumulate hentry

/-- The current balance is the sum of all changes if every balance is the sum of those up to it. -/
theorem currentBalance_eq_sum {ledger : Ledger}
    (h : ∀ earlier entry later, ledger.chronological = earlier ++ entry :: later →
      entry.balance = (earlier.map Entry.delta).sum + entry.delta) :
    ledger.currentBalance = (ledger.entries.map Entry.delta).sum := by
  rw [currentBalance]
  cases hentries : ledger.entries with
  | nil => rfl
  | cons entry earlier =>
    have hlast : ledger.chronological = earlier.reverse ++ [entry] := by
      rw [chronological, hentries, List.reverse_cons]
    change entry.balance = _
    rw [h earlier.reverse entry [] hlast, List.map_reverse, List.sum_reverse, List.map_cons,
      List.sum_cons, add_comm]

end Ledger

section Reconciliation

variable {chainTransfers : List ChainTransfer} {transfersIn : List TransferIn} {ledger : Ledger}

theorem isNamed_of_reconcile (h : reconcile chainTransfers transfersIn = .ok ledger) :
    ledger.IsNamed := by
  obtain ⟨ms, -, rfl⟩ := reconcile_eq_ok_iff.1 h
  exact Ledger.isNamed_ofMovements ms

/-- Every row of a reconciliation is that of one of the events; its balance is the exact sum of the
changes of the rows up to it, and the current balance is the sum of all changes, zero if there are
none. -/
theorem reconcile_balances (h : reconcile chainTransfers transfersIn = .ok ledger) :
    (∀ entry ∈ ledger.entries,
        ∃ event ∈ events chainTransfers transfersIn, entry.Records event) ∧
      (∀ earlier entry later, ledger.chronological = earlier ++ entry :: later →
        entry.balance = (earlier.map Entry.delta).sum + entry.delta) ∧
      ledger.currentBalance = (ledger.entries.map Entry.delta).sum ∧
      (ledger.isEmpty → ledger.currentBalance = 0) := by
  obtain ⟨ms, hread, rfl⟩ := reconcile_eq_ok_iff.1 h
  have hbalance (earlier : List Entry) (entry : Entry) (later : List Entry)
      (hsplit : (Ledger.ofMovements ms).chronological = earlier ++ entry :: later) :
      entry.balance = (earlier.map Entry.delta).sum + entry.delta := by
    rw [Ledger.chronological_ofMovements] at hsplit
    rw [Ledger.balance_of_accumulate hsplit, zero_add]
  have hcurrent := Ledger.currentBalance_eq_sum hbalance
  refine ⟨fun entry hentry ↦ ?_, hbalance, hcurrent, fun hempty ↦ ?_⟩
  · have hnamed := Ledger.isNamed_ofMovements ms entry hentry
    have hmem := Ledger.movement_mem_of_mem_entries hentry
    have hentry := hread.isRead _ hmem
    exact ⟨entry.origin, hread.origin_mem hmem,
      { origin := rfl, id := hnamed, date := hentry.date, delta := hentry.delta }⟩
  · rw [hcurrent, List.isEmpty_iff.1 hempty]
    rfl

/-- The four rows of the small account are those of events, and its balance is their sum. -/
theorem sample_balances : ∃ ledger, reconcile sampleChainTransfers sampleTransfersIn = .ok ledger ∧
    ledger.size = 4 ∧ ledger.currentBalance = (ledger.entries.map Entry.delta).sum ∧
    ∀ entry ∈ ledger.entries,
      ∃ event ∈ events sampleChainTransfers sampleTransfersIn, entry.Records event := by
  obtain ⟨ledger, hledger, hsize, -⟩ := reconcile_sample
  have h := reconcile_balances hledger
  exact ⟨ledger, hledger, hsize, h.2.2.1, h.1⟩

end Reconciliation

end RunningBalance
