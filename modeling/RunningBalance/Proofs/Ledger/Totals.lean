import RunningBalance.Proofs.Ledger.Reordering

/-!
# Totals of a ledger

The totals of a ledger are counted by the kinds of its rows, and the balance is summed up along
them; both come to the same (`balance_ofMovements`). What a ledger shows of each kind is told from
the events: all transfer-ins, and the chain transfers that are not earlier than the first of them
(`exists_shown_perm`). `reconcile_totals` is the main statement: the totals are the sums of the
amounts that the texts of exactly these events denote.
-/

set_option autoImplicit false
set_option relaxedAutoImplicit false

namespace RunningBalance

/-- Texts that denote amounts, one each. -/
abbrev AmountsOf : List String → List ℕ → Prop :=
  List.Forall₂ Amount.Denotes

/-- Whether an event is dated, and not earlier than an instant. -/
def Event.isFrom (opening : Instant) (event : Event) : Bool :=
  event.instant?.any (opening ≤ ·)

/-! ### Sums of changes -/

/-- The changes of events of one sign add up to the sum of their amounts. -/
theorem AreRead.exists_amounts {ms : List Movement} {given : List Event} (hread : AreRead ms given)
    (sign : ℤ) (hsign : ∀ event ∈ given, ∀ amount : ℕ, event.signed amount = sign * amount) :
    ∃ amounts, AmountsOf (given.map Event.amountText) amounts ∧
      (ms.map Movement.delta).sum = sign * amounts.sum := by
  obtain ⟨rfl, hread⟩ := hread
  induction ms with
  | nil => exact ⟨[], .nil, by simp⟩
  | cons m ms ih =>
    obtain ⟨hm, hms⟩ := List.forall_mem_cons.1 hread
    obtain ⟨hsignOne, hsignLater⟩ := List.forall_mem_cons.1 hsign
    obtain ⟨amounts, hamounts, hsum⟩ := ih hms hsignLater
    obtain ⟨amount, hamount, hdelta⟩ := hm.delta
    refine ⟨amount :: amounts, .cons hamount hamounts, ?_⟩
    rw [List.map_cons, List.sum_cons, List.sum_cons, hsum, hdelta, hsignOne, Nat.cast_add,
      mul_add]

namespace Ledger

/-- The changes of the movements of one kind. -/
def kindSum (ms : List Movement) (source : Source) : ℤ :=
  ((ms.filter fun m ↦ m.origin.source = source).map Movement.delta).sum

theorem kindSum_perm {ms ms' : List Movement} (h : ms.Perm ms') (source : Source) :
    kindSum ms source = kindSum ms' source :=
  ((h.filter _).map _).sum_eq

theorem kindSum_append (ms ms' : List Movement) (source : Source) :
    kindSum (ms ++ ms') source = kindSum ms source + kindSum ms' source := by
  rw [kindSum, List.filter_append, List.map_append, List.sum_append, kindSum, kindSum]

/-- Movements of one kind count for this kind alone. -/
theorem kindSum_of_forall {ms : List Movement} {source : Source}
    (h : ∀ m ∈ ms, m.origin.source = source) (other : Source) :
    kindSum ms other = if source = other then (ms.map Movement.delta).sum else 0 := by
  split
  · next heq =>
    rw [kindSum, List.filter_eq_self.2 fun m hm ↦ decide_eq_true ((h m hm).trans heq)]
  · next hne =>
    rw [kindSum, List.filter_eq_nil_iff.2 fun m hm ↦ by simpa [h m hm] using hne]
    rfl

/-- Movements are of one kind or the other. -/
theorem kindSum_add_kindSum (ms : List Movement) :
    kindSum ms .chainTransfer + kindSum ms .transferIn = (ms.map Movement.delta).sum := by
  induction ms with
  | nil => rfl
  | cons m ms ih =>
    rw [List.map_cons, List.sum_cons, ← ih]
    cases hsource : m.origin.source <;> simp [kindSum, hsource] <;> ring

theorem total_ofMovements (ms : List Movement) (source : Source) :
    (ofMovements ms).total source = kindSum (shown ms) source := by
  rw [total_eq_sum (isNamed_ofMovements ms), entries_movement]
  exact kindSum_perm (List.reverse_perm _) source

theorem credited_ofMovements (ms : List Movement) :
    (ofMovements ms).summary.credited = kindSum (shown ms) .chainTransfer :=
  total_ofMovements ms .chainTransfer

theorem debited_ofMovements (ms : List Movement) :
    (ofMovements ms).summary.debited = -kindSum (shown ms) .transferIn :=
  congrArg Neg.neg (total_ofMovements ms .transferIn)

/-- The balance is what is credited less what is debited. -/
theorem balance_ofMovements (ms : List Movement) :
    (ofMovements ms).summary.balance =
      (ofMovements ms).summary.credited - (ofMovements ms).summary.debited := by
  rw [credited_ofMovements, debited_ofMovements, sub_neg_eq_add, kindSum_add_kindSum]
  exact currentBalance_ofMovements ms

section AreRead

variable {chainTransfers : List ChainTransfer} {transfersIn : List TransferIn} {ms : List Movement}

/-- The sums of both kinds are those of the amounts of the events of the kind. -/
theorem exists_kindSum (hread : AreRead ms (events chainTransfers transfersIn)) :
    (∃ debits, AmountsOf (transfersIn.map TransferIn.tokenAmount) debits ∧
        kindSum ms .transferIn = -debits.sum) ∧
      ∃ credits, AmountsOf (chainTransfers.map ChainTransfer.tokenAmount) credits ∧
        kindSum ms .chainTransfer = credits.sum := by
  obtain ⟨debitMoves, creditMoves, rfl, hdebits, hcredits⟩ := hread.exists_append
  have hin : ∀ m ∈ debitMoves, m.origin.source = .transferIn := by
    intro m hm
    obtain ⟨transfer, -, horigin⟩ := List.mem_map.1 (hdebits.origin_mem hm)
    rw [← horigin]
    rfl
  have hchain : ∀ m ∈ creditMoves, m.origin.source = .chainTransfer := by
    intro m hm
    obtain ⟨transfer, -, horigin⟩ := List.mem_map.1 (hcredits.origin_mem hm)
    rw [← horigin]
    rfl
  obtain ⟨debits, hdebitTexts, hdebitSum⟩ := hdebits.exists_amounts (-1) <| by
    intro event hevent amount
    obtain ⟨transfer, -, rfl⟩ := List.mem_map.1 hevent
    exact (neg_one_mul _).symm
  obtain ⟨credits, hcreditTexts, hcreditSum⟩ := hcredits.exists_amounts 1 <| by
    intro event hevent amount
    obtain ⟨transfer, -, rfl⟩ := List.mem_map.1 hevent
    exact (one_mul _).symm
  rw [List.map_map] at hdebitTexts hcreditTexts
  refine ⟨⟨debits, hdebitTexts, ?_⟩, credits, hcreditTexts, ?_⟩
  · rw [kindSum_append, kindSum_of_forall hin, kindSum_of_forall hchain, if_pos rfl,
      if_neg (by decide), add_zero, hdebitSum, neg_one_mul]
  · rw [kindSum_append, kindSum_of_forall hin, kindSum_of_forall hchain, if_neg (by decide),
      if_pos rfl, zero_add, hcreditSum, one_mul]

/-- An account shows all its transfer-ins, and its chain transfers from the opening on. -/
theorem exists_shown_perm (hread : AreRead ms (events chainTransfers transfersIn))
    {opening : Instant} (hopening : IsOpening transfersIn opening) :
    ∃ rows, (shown ms).Perm rows ∧
      AreRead rows
        (events (chainTransfers.filter fun transfer ↦
          (Event.chainTransfer transfer).isFrom opening) transfersIn) := by
  have hall : transfersIn.filter (fun transfer ↦ (Event.transferIn transfer).isFrom opening) =
      transfersIn := by
    refine List.filter_eq_self.2 fun transfer hmem ↦ ?_
    obtain ⟨m, hm, horigin⟩ := hread.exists_of_mem (transferIn_mem_events.2 hmem)
    have hinstant := (hread.isRead m hm).date
    rw [horigin] at hinstant
    simpa [Event.isFrom, hinstant] using hopening.2 ⟨transfer, hmem, hinstant⟩
  refine ⟨ms.filter fun m ↦ opening ≤ m.date, ?_, ?_⟩
  · rw [shown, dropWhile_sort (pairwise_isCredit hread) ((opens_iff hread).2 hopening)]
    exact (List.mergeSort_perm _ _).filter _
  · have hfiltered := hread.filter (opening ≤ ·)
    rw [filter_events] at hfiltered
    exact hall ▸ hfiltered

/-- An account debits the amounts of all its transfer-ins. -/
theorem exists_debited (hread : AreRead ms (events chainTransfers transfersIn)) :
    ∃ debits, AmountsOf (transfersIn.map TransferIn.tokenAmount) debits ∧
      (ofMovements ms).summary.debited = debits.sum := by
  rcases eq_or_ne transfersIn [] with rfl | hne
  · refine ⟨[], .nil, ?_⟩
    rw [debited_ofMovements, shown_eq_nil hread rfl]
    rfl
  · obtain ⟨opening, hopening⟩ := exists_isOpening hread hne
    obtain ⟨rows, hrows, hrowsRead⟩ := exists_shown_perm hread hopening
    obtain ⟨⟨debits, hdebits, hsum⟩, -⟩ := exists_kindSum hrowsRead
    refine ⟨debits, hdebits, ?_⟩
    rw [debited_ofMovements, kindSum_perm hrows, hsum, neg_neg]

/-- An account credits the amounts of its chain transfers from the opening on. -/
theorem exists_credited (hread : AreRead ms (events chainTransfers transfersIn))
    (hne : transfersIn ≠ []) :
    ∃ opening, IsOpening transfersIn opening ∧ ∃ credits,
      AmountsOf ((chainTransfers.filter fun transfer ↦
        (Event.chainTransfer transfer).isFrom opening).map ChainTransfer.tokenAmount) credits ∧
      (ofMovements ms).summary.credited = credits.sum := by
  obtain ⟨opening, hopening⟩ := exists_isOpening hread hne
  obtain ⟨rows, hrows, hrowsRead⟩ := exists_shown_perm hread hopening
  obtain ⟨-, credits, hcredits, hsum⟩ := exists_kindSum hrowsRead
  refine ⟨opening, hopening, credits, hcredits, ?_⟩
  rw [credited_ofMovements, kindSum_perm hrows, hsum]

end AreRead

/-- Nothing is debited or credited in a ledger without rows. -/
theorem totals_of_isEmpty {ledger : Ledger} (h : ledger.isEmpty) :
    ledger.summary.debited = 0 ∧ ledger.summary.credited = 0 := by
  have hzero (source : Source) : ledger.total source = 0 := by
    rw [total, List.isEmpty_iff.1 h]
    rfl
  exact ⟨neg_eq_zero.2 (hzero .transferIn), hzero .chainTransfer⟩

end Ledger

section Reconciliation

variable {chainTransfers : List ChainTransfer} {transfersIn : List TransferIn} {ledger : Ledger}

/-- What a reconciliation debits is the sum of the amounts of all transfer-ins, and what it credits
that of the chain transfers that are not earlier than the first transfer-in. Neither is negative,
both are zero for an empty ledger, their difference is the balance, and every event is counted as an
entry or as dropped. -/
theorem reconcile_totals (h : reconcile chainTransfers transfersIn = .ok ledger) :
    (∃ debits, AmountsOf (transfersIn.map TransferIn.tokenAmount) debits ∧
        ledger.summary.debited = debits.sum) ∧
      (transfersIn ≠ [] → ∃ opening, IsOpening transfersIn opening ∧
        ∃ credits,
          AmountsOf ((chainTransfers.filter fun transfer ↦
            (Event.chainTransfer transfer).isFrom opening).map ChainTransfer.tokenAmount) credits ∧
          ledger.summary.credited = credits.sum) ∧
      0 ≤ ledger.summary.debited ∧ 0 ≤ ledger.summary.credited ∧
      (ledger.isEmpty → ledger.summary.debited = 0 ∧ ledger.summary.credited = 0) ∧
      ledger.summary.balance = ledger.summary.credited - ledger.summary.debited ∧
      ledger.summary.entries + ledger.summary.dropped =
        chainTransfers.length + transfersIn.length := by
  obtain ⟨ms, hread, rfl⟩ := reconcile_eq_ok_iff.1 h
  obtain ⟨debits, hdebits, hdebited⟩ := Ledger.exists_debited hread
  have hcredited := Ledger.exists_credited hread
  refine ⟨⟨debits, hdebits, hdebited⟩, hcredited, ?_, ?_, Ledger.totals_of_isEmpty,
    Ledger.balance_ofMovements ms, ?_⟩
  · rw [hdebited]
    exact Int.natCast_nonneg _
  · rcases eq_or_ne transfersIn [] with hnil | hne
    · have hempty := List.isEmpty_iff.2 (Ledger.entries_ofMovements_eq_nil hread hnil)
      exact (Ledger.totals_of_isEmpty hempty).2.ge
    · obtain ⟨opening, -, credits, -, hsum⟩ := hcredited hne
      rw [hsum]
      exact Int.natCast_nonneg _
  · have hsize := Ledger.size_add_dropped ms
    rwa [hread.length] at hsize

/-- The small account debits both its transfer-ins, and credits the two chain transfers that are not
earlier than the first of them. -/
theorem sample_totals : ∃ ledger debits opening credits,
    reconcile sampleChainTransfers sampleTransfersIn = .ok ledger ∧
      AmountsOf (sampleTransfersIn.map TransferIn.tokenAmount) debits ∧
      ledger.summary.debited = debits.sum ∧
      IsOpening sampleTransfersIn opening ∧
      AmountsOf ((sampleChainTransfers.filter fun transfer ↦
        (Event.chainTransfer transfer).isFrom opening).map ChainTransfer.tokenAmount) credits ∧
      ledger.summary.credited = credits.sum ∧
      ledger.summary =
        { credited := 70, debited := 140, balance := -70, entries := 4, dropped := 1 } := by
  obtain ⟨ledger, hledger, -⟩ := reconcile_sample
  obtain ⟨⟨debits, hdebits, hdebited⟩, hcredited, -⟩ := reconcile_totals hledger
  obtain ⟨opening, hopening, credits, hcredits, hsum⟩ := hcredited (List.cons_ne_nil _ _)
  have hcomputed : (reconcile sampleChainTransfers sampleTransfersIn).map Ledger.summary =
      .ok { credited := 70, debited := 140, balance := -70, entries := 4, dropped := 1 } := by
    cbv
  rw [hledger] at hcomputed
  exact ⟨ledger, debits, opening, credits, hledger, hdebits, hdebited, hopening, hcredits, hsum,
    Except.ok.inj hcomputed⟩

end Reconciliation

end RunningBalance
