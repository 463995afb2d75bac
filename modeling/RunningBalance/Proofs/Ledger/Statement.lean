import RunningBalance.Ledger.Reconciliation
import RunningBalance.Ledger.Statement
import RunningBalance.Proofs.Amount
import RunningBalance.Proofs.Attempts

/-!
# Ledgers that can be rendered

An amount is written in whole tokens by padding its digits, unless it has more digits than the token
has decimals, and padding stops at the widest field. A document needs no padding. So a display up to
the widest field renders every ledger as text, and one beyond it only those whose amounts need no
padding (`Ledger.render?_isSome_iff`). Of the ledgers that reconciliations make there is always one
with an amount that needs it (`Ledger.forall_render?_isSome_iff`).
-/

set_option autoImplicit false
set_option relaxedAutoImplicit false

namespace RunningBalance

/-- A display that needs no field wider than the widest one. -/
def Display.IsSafe (display : Display) : Prop :=
  display.output = .json ∨ display.decimals ≤ Amount.widestField

/-- The amounts of a row have more digits than the token has decimals. -/
def Entry.NeedsNoPadding (display : Display) (entry : Entry) : Prop :=
  10 ^ display.decimals ≤ entry.delta.natAbs ∧ 10 ^ display.decimals ≤ entry.balance.natAbs

variable {display : Display}

theorem Entry.row?_isSome_iff {entry : Entry} :
    (entry.row? display).isSome ↔
      display.decimals ≤ Amount.widestField ∨ entry.NeedsNoPadding display := by
  have hrow : (entry.row? display).isSome ↔ (Amount.inUnits? entry.delta display.decimals).isSome ∧
      (Amount.inUnits? entry.balance display.decimals).isSome := by
    rw [row?]
    cases Amount.inUnits? entry.delta display.decimals <;>
      cases Amount.inUnits? entry.balance display.decimals <;> simp
  rw [hrow, Amount.inUnits?_isSome_iff, Amount.inUnits?_isSome_iff, ← or_and_left, NeedsNoPadding]

namespace Ledger

variable {account : Account} {ledger : Ledger}

/-- The balance in the header is that of the first row. -/
theorem header?_isSome_iff {entry : Entry} {later : List Entry}
    (hentries : ledger.entries = entry :: later) :
    (header? account ledger display).isSome ↔
      (Amount.inUnits? entry.balance display.decimals).isSome := by
  rw [header?, Option.isSome_map, summary, currentBalance, hentries]

/-- There is a statement if there is one of each row. -/
theorem statement?_isSome_iff :
    (statement? account ledger display).isSome ↔
      ∀ entry ∈ ledger.entries, (entry.row? display).isSome := by
  rw [statement?, isEmpty]
  cases hentries : ledger.entries with
  | nil => exact iff_of_true rfl (List.forall_mem_nil _)
  | cons entry later =>
    rw [← Attempts.isSome_mapM_iff, if_neg Bool.noConfusion]
    cases hheader : header? account ledger display with
    | some header => cases (entry :: later).mapM (Entry.row? display) <;> simp
    | none =>
      refine iff_of_false Bool.noConfusion fun hrows ↦ ?_
      have hrow := Attempts.isSome_mapM_iff.1 hrows entry List.mem_cons_self
      have hbalance : (header? account ledger display).isSome := by
        rw [header?_isSome_iff hentries, Amount.inUnits?_isSome_iff]
        exact (Entry.row?_isSome_iff.1 hrow).imp_right And.right
      rw [hheader] at hbalance
      cases hbalance

/-- A ledger can be rendered with a safe display, and with another one if no amount of it needs
padding. -/
theorem render?_isSome_iff :
    (ledger.render? account display).isSome ↔
      display.IsSafe ∨ ∀ entry ∈ ledger.entries, entry.NeedsNoPadding display := by
  rw [render?, Display.IsSafe]
  cases display.output with
  | json => exact iff_of_true rfl (.inl (.inl rfl))
  | text =>
    simp only [statement?_isSome_iff, Entry.row?_isSome_iff, reduceCtorEq, false_or]
    by_cases hdecimals : display.decimals ≤ Amount.widestField
    · simp [hdecimals]
    · simp [hdecimals]

/-! ### Reconciled ledgers -/

/-- An account that has requested to transfer nothing in. -/
def idleTransfers : Transfers :=
  { transfersIn := [{ id := 1, requestedDate := "2024-01-01T00:00:00Z", tokenAmount := "0" }] }

/-- The ledger of the account has one row, with no balance. -/
def idle : Ledger where
  entries := idleTransfers.transfersIn.map fun transfer ↦
    { id := { source := .transferIn, number := transfer.id }, date := ⟨1704067200, 0⟩, delta := 0
      balance := 0, origin := .transferIn transfer }

theorem reconcile_idleTransfers : idleTransfers.reconcile = .ok idle := by
  decide +kernel

/-- A zero always needs padding. -/
theorem render?_idle_isSome_iff : (idle.render? account display).isSome ↔ display.IsSafe := by
  rw [render?_isSome_iff]
  refine or_iff_left fun hfits ↦ ?_
  have hzero := (hfits _ List.mem_cons_self).1
  exact absurd hzero (Nat.not_le.2 (Nat.pow_pos (by decide)))

/-- The displays that render every ledger of a reconciliation are the safe ones. -/
theorem forall_render?_isSome_iff :
    (∀ account (transfers : Transfers) (ledger : Ledger), transfers.reconcile = .ok ledger →
      (ledger.render? account display).isSome) ↔ display.IsSafe := by
  refine ⟨fun h ↦ ?_, fun hsafe _ _ _ _ ↦ render?_isSome_iff.2 (.inl hsafe)⟩
  exact render?_idle_isSome_iff.1 (h { number := ⟨0, by decide⟩ } _ _ reconcile_idleTransfers)

end Ledger

end RunningBalance
