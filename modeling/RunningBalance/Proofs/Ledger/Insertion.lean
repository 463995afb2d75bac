import RunningBalance.Proofs.Ledger.Chronology
import RunningBalance.Proofs.Ledger.Reordering

/-!
# One more event

An event that is added to an account is sorted in behind its group and all earlier ones
(`exists_sort_insert`). What it does to the ledger depends on whether a transfer-in stands before
it.

If one does, nothing more is dropped: the event has its row behind the rows that stand before it,
and all later balances are moved by its change (`chronological_insert`). If none does, a chain
transfer is dropped (`ofMovements_insert_credit`), and a transfer-in becomes the first row, which
brings back the dropped chain transfers that are not earlier (`shown_insert_debit`).

The main statements are `reconcile_with_chainTransfer` and `reconcile_with_transferIn`. The second
names the rows that are brought back without the order in which they were sorted (`AreRevived`).
-/

set_option autoImplicit false
set_option relaxedAutoImplicit false

namespace RunningBalance

/-- The row with a balance that is higher by an amount. -/
def Entry.shift (amount : ℤ) (entry : Entry) : Entry :=
  { entry with balance := entry.balance + amount }

namespace Ledger

/-! ### Rows after one more -/

/-- A higher balance before the first row makes all balances higher. -/
theorem accumulate_add (balance amount : ℤ) (ms : List Movement) :
    accumulate (balance + amount) ms = (accumulate balance ms).map (Entry.shift amount) := by
  induction ms generalizing balance with
  | nil => rfl
  | cons m ms ih =>
    rw [accumulate, accumulate, List.map_cons, add_right_comm, ih]
    rfl

/-- The last row has all changes in its balance. -/
theorem balance_of_getLast? {balance : ℤ} {ms : List Movement} {last : Entry}
    (h : (accumulate balance ms).getLast? = some last) :
    last.balance = balance + (ms.map Movement.delta).sum := by
  obtain ⟨earlier, hsplit⟩ := List.getLast?_eq_some_iff.1 h
  have hms := congrArg (List.map Entry.movement) hsplit
  rw [accumulate_movement, List.map_append, List.map_singleton] at hms
  rw [balance_of_accumulate hsplit, hms, List.map_append, List.map_map, List.sum_append,
    List.map_singleton, List.sum_singleton, add_assoc]
  rfl

/-- One more movement adds its row behind the rows of what stands before it, and moves all later
balances by its change. -/
theorem accumulate_insert (test : Movement → Bool) {before after : List Movement} (m : Movement)
    (hbefore : ∀ x ∈ before, test x) (hafter : ∀ x ∈ after, ¬test x) (hne : before ≠ []) :
    ∃ previous, ((accumulate 0 (before ++ after)).filter (test ·.movement)).getLast? =
        some previous ∧
      accumulate 0 (before ++ m :: after) =
        (accumulate 0 (before ++ after)).filter (test ·.movement) ++
          { id := m.origin.id, date := m.date, delta := m.delta,
            balance := previous.balance + m.delta, origin := m.origin } ::
          ((accumulate 0 (before ++ after)).filter (!test ·.movement)).map
            (Entry.shift m.delta) := by
  obtain ⟨hfirst, hlast⟩ := filter_accumulate test 0 hbefore hafter
  rw [hfirst, hlast, accumulate_append, accumulate, accumulate_add]
  cases hprevious : (accumulate 0 before).getLast? with
  | none =>
    rw [List.getLast?_eq_none_iff] at hprevious
    have hnil := congrArg (List.map Entry.movement) hprevious
    rw [accumulate_movement] at hnil
    exact absurd hnil hne
  | some previous =>
    refine ⟨previous, rfl, ?_⟩
    rw [balance_of_getLast? hprevious]

/-! ### Where one more movement is sorted in -/

/-- Movements with one more among them, which is given last of its group. -/
def GivenLast (m : Movement) (ms ms' : List Movement) : Prop :=
  ∀ g, ms'.filter (fun x ↦ x.group = g) = (ms ++ [m]).filter fun x ↦ x.group = g

section Sorting

variable {chainTransfers chainTransfers' : List ChainTransfer}
  {transfersIn transfersIn' : List TransferIn} {ms ms' : List Movement} {m : Movement}

/-- The movements of an account are sorted by their groups, those of one group as they were
given. -/
theorem sort_eq_sortByKey_group (hread : AreRead ms (events chainTransfers transfersIn)) :
    sort ms = StableSort.sortByKey Movement.group ms := by
  refine StableSort.eq_sortByKey (pairwise_sort hread) fun g ↦ ?_
  have hdate (x : Movement) (hx : x.group = g) : x.date = (ofLex g).1 := by
    rw [← hx]
    rfl
  have hgroup (xs : List Movement) : xs.filter (fun x ↦ x.group = g) =
      (xs.filter fun x ↦ x.date = (ofLex g).1).filter fun x ↦ x.group = g := by
    rw [List.filter_filter]
    refine List.filter_congr fun x _ ↦ ?_
    by_cases hx : x.group = g
    · simp [hx, hdate x hx]
    · simp [hx]
  rw [hgroup, hgroup ms, sort_eq_sortByKey, StableSort.filter_key_sortByKey]

/-- One more movement is sorted in behind its group and all earlier ones. -/
theorem exists_sort_insert (hread : AreRead ms (events chainTransfers transfersIn))
    (hread' : AreRead ms' (events chainTransfers' transfersIn')) (hlast : GivenLast m ms ms') :
    ∃ before after, sort ms = before ++ after ∧ sort ms' = before ++ m :: after ∧
      (∀ x ∈ before, x.group ≤ m.group) ∧ ∀ x ∈ after, m.group < x.group := by
  rw [sort_eq_sortByKey_group hread, sort_eq_sortByKey_group hread',
    StableSort.sortByKey_congr hlast]
  exact StableSort.sortByKey_concat Movement.group m ms

/-- Behind a debit one more movement is shown, and nothing else changes. -/
theorem exists_shown_insert (hread : AreRead ms (events chainTransfers transfersIn))
    (hread' : AreRead ms' (events chainTransfers' transfersIn')) (hlast : GivenLast m ms ms')
    {debit : Movement} (hdebit : debit ∈ ms) (hkind : isCredit debit = false)
    (hle : debit.group ≤ m.group) :
    ∃ before after, shown ms = before ++ after ∧ shown ms' = before ++ m :: after ∧
      before ≠ [] ∧ (∀ x ∈ before, x.group ≤ m.group) ∧ (∀ x ∈ after, m.group < x.group) ∧
      (ofMovements ms').dropped = (ofMovements ms).dropped := by
  obtain ⟨before, after, hsort, hsort', hbefore, hafter⟩ := exists_sort_insert hread hread' hlast
  have hmem : debit ∈ before := by
    have hsorted := mem_sort.2 hdebit
    rw [hsort, List.mem_append] at hsorted
    exact hsorted.resolve_right fun hlate ↦ (hafter debit hlate).not_ge hle
  have hne : before.dropWhile isCredit ≠ [] := by
    intro hnil
    rw [List.dropWhile_eq_nil_iff.1 hnil debit hmem] at hkind
    cases hkind
  have hshort : (before.takeWhile isCredit).length ≠ before.length := by
    intro hlength
    have hall := (List.takeWhile_prefix isCredit).eq_of_length hlength
    rw [← hall] at hmem
    rw [List.mem_takeWhile_imp hmem] at hkind
    cases hkind
  refine ⟨before.dropWhile isCredit, after, ?_, ?_, hne, fun x hx ↦ ?_, hafter, ?_⟩
  · rw [shown, hsort, List.dropWhile_append, if_neg (mt List.isEmpty_iff.1 hne)]
  · rw [shown, hsort', List.dropWhile_append, if_neg (mt List.isEmpty_iff.1 hne)]
  · exact hbefore x ((List.dropWhile_sublist _).subset hx)
  · rw [ofMovements, ofMovements, hsort, hsort', List.takeWhile_append, List.takeWhile_append,
      if_neg hshort, if_neg hshort]

/-- Behind a debit one more movement adds its row behind those of its group and of earlier ones, and
moves all later balances by its change. -/
theorem chronological_insert (hread : AreRead ms (events chainTransfers transfersIn))
    (hread' : AreRead ms' (events chainTransfers' transfersIn')) (hlast : GivenLast m ms ms')
    {debit : Movement} (hdebit : debit ∈ ms) (hkind : isCredit debit = false)
    (hle : debit.group ≤ m.group) (test : Movement → Bool)
    (htest : ∀ x, test x = true ↔ x.group ≤ m.group) :
    (ofMovements ms').dropped = (ofMovements ms).dropped ∧
      ∃ previous,
        ((ofMovements ms).chronological.filter (test ·.movement)).getLast? = some previous ∧
        (ofMovements ms').chronological =
          (ofMovements ms).chronological.filter (test ·.movement) ++
            { id := m.origin.id, date := m.date, delta := m.delta,
              balance := previous.balance + m.delta, origin := m.origin } ::
            ((ofMovements ms).chronological.filter (!test ·.movement)).map
              (Entry.shift m.delta) := by
  obtain ⟨before, after, hshown, hshown', hne, hbefore, hafter, hdropped⟩ :=
    exists_shown_insert hread hread' hlast hdebit hkind hle
  refine ⟨hdropped, ?_⟩
  rw [chronological_ofMovements, chronological_ofMovements, ← shown, ← shown, hshown, hshown']
  refine accumulate_insert test m (fun x hx ↦ (htest x).2 (hbefore x hx)) (fun x hx ↦ ?_) hne
  rw [htest]
  exact (hafter x hx).not_ge

/-- What is sorted before a movement that comes before all debits is credits. -/
theorem isCredit_of_sort_eq {before after : List Movement} (hsort : sort ms = before ++ after)
    (hbefore : ∀ x ∈ before, x.group ≤ m.group)
    (hfirst : ∀ x ∈ ms, isCredit x = false → m.group < x.group) :
    ∀ x ∈ before, isCredit x = true := by
  intro x hx
  by_contra hdebit
  have hmem : x ∈ ms := mem_sort.1 (hsort ▸ List.mem_append_left after hx)
  exact (hbefore x hx).not_gt (hfirst x hmem (Bool.eq_false_of_not_eq_true hdebit))

/-- A credit before all debits is dropped, and nothing else changes. -/
theorem ofMovements_insert_credit (hread : AreRead ms (events chainTransfers transfersIn))
    (hread' : AreRead ms' (events chainTransfers' transfersIn')) (hlast : GivenLast m ms ms')
    (hkind : isCredit m = true) (hfirst : ∀ x ∈ ms, isCredit x = false → m.group < x.group) :
    ofMovements ms' =
      { ofMovements ms with dropped := (ofMovements ms).dropped + 1 } := by
  obtain ⟨before, after, hsort, hsort', hbefore, -⟩ := exists_sort_insert hread hread' hlast
  have hcredits := isCredit_of_sort_eq hsort hbefore hfirst
  rw [ofMovements, ofMovements, hsort, hsort', List.dropWhile_append_of_pos hcredits,
    List.dropWhile_append_of_pos hcredits, List.takeWhile_append_of_pos hcredits,
    List.takeWhile_append_of_pos hcredits, List.dropWhile_cons_of_pos hkind,
    List.takeWhile_cons_of_pos hkind, List.length_append, List.length_append, List.length_cons,
    Nat.add_assoc]

/-- The credits that a debit brings back are those sorted behind it up to the next debit. -/
theorem filter_takeWhile_of_sort_eq {before after : List Movement}
    (hsort : sort ms = before ++ after) (hcredits : ∀ x ∈ before, isCredit x = true)
    (hbefore : ∀ x ∈ before, x.group ≤ m.group) (hafter : ∀ x ∈ after, m.group < x.group)
    (hkind : isCredit m = false) :
    ((sort ms).takeWhile isCredit).filter (fun x ↦ m.date ≤ x.date) =
      after.takeWhile isCredit := by
  have hearly (x : Movement) (hx : x ∈ before) : ¬m.date ≤ x.date := by
    rcases group_le_iff.1 (hbefore x hx) with hlt | ⟨-, hcredit⟩
    · exact hlt.not_ge
    · rw [hcredit (hcredits x hx)] at hkind
      cases hkind
  have hlate (x : Movement) (hx : x ∈ after.takeWhile isCredit) : m.date ≤ x.date :=
    date_le_of_group_le (hafter x ((List.takeWhile_prefix _).subset hx)).le
  rw [hsort, List.takeWhile_append_of_pos hcredits, List.filter_append,
    List.filter_eq_nil_iff.2, List.filter_eq_self.2, List.nil_append]
  · intro x hx
    exact decide_eq_true (hlate x hx)
  · intro x hx
    simpa using hearly x hx

/-- A debit before all other debits is shown first, and behind it the credits that were dropped
although they are not earlier. -/
theorem shown_insert_debit (hread : AreRead ms (events chainTransfers transfersIn))
    (hread' : AreRead ms' (events chainTransfers' transfersIn')) (hlast : GivenLast m ms ms')
    (hkind : isCredit m = false) (hfirst : ∀ x ∈ ms, isCredit x = false → m.group < x.group) :
    let revived := ((sort ms).takeWhile isCredit).filter fun x ↦ m.date ≤ x.date
    shown ms' = m :: (revived ++ shown ms) ∧
      (ofMovements ms').dropped + revived.length = (ofMovements ms).dropped := by
  intro revived
  obtain ⟨before, after, hsort, hsort', hbefore, hafter⟩ := exists_sort_insert hread hread' hlast
  have hcredits := isCredit_of_sort_eq hsort hbefore hfirst
  have hrevived : revived = after.takeWhile isCredit :=
    filter_takeWhile_of_sort_eq hsort hcredits hbefore hafter hkind
  rw [hrevived]
  constructor
  · rw [shown, shown, hsort, hsort', List.dropWhile_append_of_pos hcredits,
      List.dropWhile_append_of_pos hcredits, List.dropWhile_cons_of_neg (by simp [hkind]),
      List.takeWhile_append_dropWhile]
  · rw [ofMovements, ofMovements, hsort, hsort', List.takeWhile_append_of_pos hcredits,
      List.takeWhile_append_of_pos hcredits, List.takeWhile_cons_of_neg (by simp [hkind]),
      List.append_nil, List.length_append]

/-- What is dropped is what is earlier than all debits. -/
theorem takeWhile_sort_eq_filter (hread : AreRead ms (events chainTransfers transfersIn))
    (test : Instant → Bool)
    (htest : ∀ x, test x = true ↔ ∀ y ∈ ms, isCredit y = false → x < y.date) :
    (sort ms).takeWhile isCredit = (sort ms).filter (test ·.date) := by
  by_cases hdebit : ∃ y ∈ ms, isCredit y = false
  · obtain ⟨y, hy, hkind⟩ := hdebit
    obtain ⟨opening, hopens⟩ := exists_opens hy hkind
    rw [takeWhile_sort (pairwise_isCredit hread) hopens]
    refine List.filter_congr fun x _ ↦ Bool.eq_iff_iff.2 ?_
    rw [decide_eq_true_eq, htest]
    constructor
    · intro hlt z hz hzkind
      exact hlt.trans_le (hopens.2 ⟨z, hz, hzkind, rfl⟩)
    · intro hall
      obtain ⟨⟨first, hfirst, hfirstKind, rfl⟩, -⟩ := hopens
      exact hall first hfirst hfirstKind
  · have hcredits (x : Movement) (hx : x ∈ sort ms) : isCredit x = true := by
      by_contra hkind
      exact hdebit ⟨x, mem_sort.1 hx, Bool.eq_false_of_not_eq_true hkind⟩
    rw [List.takeWhile_eq_self_iff.2 hcredits, List.filter_eq_self.2]
    intro x _
    exact (htest x.date).2 fun y hy hkind ↦ absurd ⟨y, hy, hkind⟩ hdebit

end Sorting

end Ledger

/-! ### One more event -/

section Reconciliation

variable {chainTransfers : List ChainTransfer} {transfersIn : List TransferIn}
  {ms : List Movement} {m : Movement} {ledger : Ledger}

/-- One more chain transfer is given last of its group. -/
theorem exists_read_chainTransfer (hread : AreRead ms (events chainTransfers transfersIn))
    (hm : m.IsRead) {transfer : ChainTransfer} (horigin : m.origin = .chainTransfer transfer) :
    ∃ ms', AreRead ms' (events (chainTransfers ++ [transfer]) transfersIn) ∧
      Ledger.GivenLast m ms ms' := by
  refine ⟨ms ++ [m], ?_, fun _ ↦ rfl⟩
  rw [events, List.map_append, ← List.append_assoc, List.map_singleton, ← horigin]
  exact hread.append hm.areRead

/-- One more transfer-in is given last of its group, although the chain transfers follow it. -/
theorem exists_read_transferIn (hread : AreRead ms (events chainTransfers transfersIn))
    (hm : m.IsRead) {transfer : TransferIn} (horigin : m.origin = .transferIn transfer) :
    ∃ ms', AreRead ms' (events chainTransfers (transfersIn ++ [transfer])) ∧
      Ledger.GivenLast m ms ms' := by
  obtain ⟨debits, credits, rfl, hdebits, hcredits⟩ := hread.exists_append
  refine ⟨debits ++ [m] ++ credits, ?_, fun g ↦ ?_⟩
  · rw [events, List.map_append, List.map_singleton, ← horigin]
    exact (hdebits.append hm.areRead).append hcredits
  · rw [List.filter_append, List.filter_append, List.filter_append, List.filter_append,
      List.append_assoc, List.append_assoc]
    refine congrArg (debits.filter (fun x ↦ x.group = g) ++ ·) ?_
    by_cases hg : m.group = g
    · have hnone : credits.filter (fun x ↦ x.group = g) = [] := by
        refine List.filter_eq_nil_iff.2 fun x hx hxg ↦ ?_
        obtain ⟨credit, -, hcredit⟩ := List.mem_map.1 (hcredits.origin_mem hx)
        have hsource := (Ledger.group_inj.1 ((of_decide_eq_true hxg).trans hg.symm)).2
        rw [horigin, ← hcredit] at hsource
        cases hsource
      rw [hnone, List.nil_append, List.append_nil]
    · have hnone : [m].filter (fun x ↦ x.group = g) = [] := by simp [hg]
      rw [hnone, List.nil_append, List.append_nil]

/-- One more chain transfer leaves the rows of an account with a transfer-in as they are and is
dropped, if it is earlier than the first transfer-in. Otherwise it drops nothing: its row stands
behind all rows up to its instant, and the rows behind it have their balances raised by its
amount. -/
theorem reconcile_with_chainTransfer (h : reconcile chainTransfers transfersIn = .ok ledger)
    (hne : transfersIn ≠ []) {transfer : ChainTransfer} {date : Instant} {amount : ℕ}
    (hdate : (Event.chainTransfer transfer).instant? = some date)
    (hamount : Amount.Denotes transfer.tokenAmount amount) :
    ∃ opening later, IsOpening transfersIn opening ∧
      reconcile (chainTransfers ++ [transfer]) transfersIn = .ok later ∧
      (date < opening →
        later.entries = ledger.entries ∧ later.dropped = ledger.dropped + 1) ∧
      (opening ≤ date → later.dropped = ledger.dropped ∧
        ∃ previous,
          (ledger.chronological.filter fun entry ↦ entry.date ≤ date).getLast? = some previous ∧
          later.chronological = (ledger.chronological.filter fun entry ↦ entry.date ≤ date) ++
            { id := { source := .chainTransfer, number := transfer.id }, date, delta := amount,
              balance := previous.balance + amount, origin := .chainTransfer transfer } ::
            (ledger.chronological.filter fun entry ↦ !decide (entry.date ≤ date)).map
              (Entry.shift amount)) := by
  obtain ⟨ms, hread, rfl⟩ := reconcile_eq_ok_iff.1 h
  obtain ⟨opening, hopening⟩ := Ledger.exists_isOpening hread hne
  have hopens := (Ledger.opens_iff hread).2 hopening
  let m : Movement := { date, delta := amount, origin := .chainTransfer transfer }
  have hm : m.IsRead := ⟨hdate, amount, hamount, rfl⟩
  obtain ⟨ms', hread', hlast⟩ := exists_read_chainTransfer hread hm rfl
  refine ⟨opening, _, hopening, reconcile_eq_ok_iff.2 ⟨ms', hread', rfl⟩, fun hlt ↦ ?_,
    fun hle ↦ ?_⟩
  · rw [Ledger.ofMovements_insert_credit hread hread' hlast rfl]
    · exact ⟨rfl, rfl⟩
    · intro x hx hdebit
      exact Ledger.group_lt_of_date_lt (hlt.trans_le (hopens.2 ⟨x, hx, hdebit, rfl⟩))
  · obtain ⟨debit, hdebit, hkind, rfl⟩ := hopens.1
    have hgroup (x : Movement) : x.group ≤ m.group ↔ x.date ≤ date := by
      rw [Ledger.group_le_iff, le_iff_lt_or_eq]
      exact or_congr Iff.rfl (and_iff_left fun _ ↦ rfl)
    exact Ledger.chronological_insert hread hread' hlast hdebit hkind ((hgroup debit).2 hle)
      (fun x ↦ x.date ≤ date) fun x ↦ decide_eq_true_iff.trans (hgroup x).symm

/-- A chain transfer between the rows of the small account. -/
def sampleLate : ChainTransfer :=
  { id := 4, blockchainDate := some "2024-01-02T12:00Z", tokenAmount := "7" }

/-- One more chain transfer between the rows of the small account raises the balances behind it. -/
theorem sample_with_chainTransfer : ∃ ledger later,
    reconcile sampleChainTransfers sampleTransfersIn = .ok ledger ∧
      ledger.chronological.map Entry.balance = [-100, -70, -110, -70] ∧
      reconcile (sampleChainTransfers ++ [sampleLate]) sampleTransfersIn = .ok later ∧
      later.dropped = ledger.dropped ∧
      later.chronological.map Entry.balance = [-100, -70, -63, -103, -63] := by
  obtain ⟨ledger, hledger, -, -, hbefore⟩ := reconcile_sample
  have hdate : (Event.chainTransfer sampleLate).instant? =
      some { seconds := 1704196800, nanos := 0 } := by
    decide +kernel
  have hamount : Amount.Denotes sampleLate.tokenAmount 7 :=
    Amount.read?_eq_some_iff.1 (by decide +kernel)
  obtain ⟨opening, later, hopening, hlater, -, hbehind⟩ :=
    reconcile_with_chainTransfer hledger (by decide) hdate hamount
  have hearlier : ∃ known ∈ sampleTransfersIn,
      (Event.transferIn known).instant? = some { seconds := 1704153600, nanos := 0 } := by
    decide +kernel
  have hle : opening ≤ { seconds := 1704196800, nanos := 0 } :=
    (hopening.2 hearlier).trans (by decide)
  have hbalances : (reconcile (sampleChainTransfers ++ [sampleLate]) sampleTransfersIn).map
      (fun ledger ↦ ledger.chronological.map Entry.balance) =
        .ok [-100, -70, -63, -103, -63] := by
    cbv
  rw [hlater] at hbalances
  exact ⟨ledger, later, hledger, hbefore, hlater, (hbehind hle).1, Except.ok.inj hbalances⟩

/-- An instant is early if all transfer-ins are later. The chain transfers of an account that are
dropped are those at early instants. -/
def IsEarly (transfersIn : List TransferIn) (x : Instant) : Prop :=
  ∀ known ∈ transfersIn, ∀ y, (Event.transferIn known).instant? = some y → x < y

instance (transfersIn : List TransferIn) (x : Instant) : Decidable (IsEarly transfersIn x) :=
  decidable_of_iff (∀ known ∈ transfersIn, (Event.transferIn known).instant?.all (x < ·))
    (by simp [IsEarly, Option.all_eq_true])

theorem isEarly_iff (hread : AreRead ms (events chainTransfers transfersIn)) {x : Instant} :
    IsEarly transfersIn x ↔ ∀ m ∈ ms, Ledger.isCredit m = false → x < m.date := by
  constructor
  · intro hearly m hm hkind
    obtain ⟨known, hknown, hinstant⟩ :=
      (Ledger.exists_debit_iff hread m.date).1 ⟨m, hm, hkind, rfl⟩
    exact hearly known hknown m.date hinstant
  · intro hearly known hknown y hinstant
    obtain ⟨m, hm, hkind, rfl⟩ := (Ledger.exists_debit_iff hread y).2 ⟨known, hknown, hinstant⟩
    exact hearly m hm hkind

/-- Rows of the chain transfers that were dropped but are not earlier than an instant. They stand by
instant and then by position, each with what its event denotes, and their balances follow a
balance. -/
structure AreRevived (chainTransfers : List ChainTransfer) (transfersIn : List TransferIn)
    (date : Instant) (balance : ℤ) (rows : List Entry) : Prop where
  origin : ∃ places : List Place,
    places.Pairwise (Place.Earlier chainTransfers transfersIn) ∧
    (∀ place, place ∈ places ↔ place.source = .chainTransfer ∧
      ∃ x, place.instant? chainTransfers transfersIn = some x ∧ date ≤ x ∧
        IsEarly transfersIn x) ∧
    rows.map (fun entry ↦ some entry.origin) =
      places.map (Place.event? chainTransfers transfersIn)
  records : ∀ entry ∈ rows, entry.Records entry.origin
  balance : ∀ earlier entry later, rows = earlier ++ entry :: later →
    entry.balance = balance + (earlier.map Entry.delta).sum + entry.delta

/-- No transfer-in stands at an early instant. -/
theorem source_of_isEarly {place : Place} {x : Instant}
    (hplace : place.instant? chainTransfers transfersIn = some x)
    (hearly : IsEarly transfersIn x) : place.source = .chainTransfer := by
  obtain ⟨source, position⟩ := place
  cases source with
  | chainTransfer => rfl
  | transferIn =>
    obtain ⟨event, hevent, hinstant⟩ := Option.bind_eq_some_iff.1 hplace
    obtain ⟨known, hknown, rfl⟩ := Option.map_eq_some_iff.1 hevent
    exact absurd (hearly known (List.mem_of_getElem? hknown) x hinstant) (lt_irrefl x)

/-- The rows of the movements that are dropped but are not earlier than an instant are those that a
transfer-in at this instant revives. -/
theorem areRevived_accumulate (hread : AreRead ms (events chainTransfers transfersIn))
    (date : Instant) (balance : ℤ) :
    AreRevived chainTransfers transfersIn date balance
      (Ledger.accumulate balance
        (((Ledger.sort ms).takeWhile Ledger.isCredit).filter fun x ↦ date ≤ x.date)) := by
  let isEarly (x : Instant) : Bool := decide (IsEarly transfersIn x)
  have hrevived : ((Ledger.sort ms).takeWhile Ledger.isCredit).filter (fun m ↦ date ≤ m.date) =
      (Ledger.sort ms).filter fun m ↦ decide (date ≤ m.date) && isEarly m.date := by
    rw [Ledger.takeWhile_sort_eq_filter hread isEarly, List.filter_filter]
    intro x
    rw [decide_eq_true_iff, isEarly_iff hread]
  obtain ⟨places, hordered, hmem, hplaces⟩ :=
    exists_places hread fun x ↦ decide (date ≤ x) && isEarly x
  rw [hrevived]
  refine ⟨⟨places, hordered, fun place ↦ ?_, ?_⟩, fun entry hentry ↦ ?_,
    fun earlier entry later ↦ ?_⟩
  · simp only [hmem, Bool.and_eq_true, decide_eq_true_iff, isEarly]
    constructor
    · rintro ⟨x, hx, hle, hearly⟩
      exact ⟨source_of_isEarly hx hearly, x, hx, hle, hearly⟩
    · exact And.right
  · rw [hplaces]
    conv_rhs => rw [← Ledger.accumulate_movement balance (List.filter _ _), List.map_map]
    rfl
  · have hrow := Ledger.movement_mem_of_mem_accumulate hentry
    have hnamed := Ledger.id_of_mem_accumulate hentry
    have hentry := hread.isRead _ (Ledger.mem_sort.1 (List.mem_filter.1 hrow).1)
    exact { origin := rfl, id := hnamed, date := hentry.date, delta := hentry.delta }
  · exact Ledger.balance_of_accumulate

/-- One more transfer-in drops nothing if some transfer-in is not later: its row stands behind the
earlier rows and behind the transfer-ins of its instant, and the rows behind it have their balances
lowered by its amount. Otherwise its row comes first, and behind it the chain transfers that were
dropped but are not earlier; the balances of all other rows are moved by what these change. -/
theorem reconcile_with_transferIn (h : reconcile chainTransfers transfersIn = .ok ledger)
    {transfer : TransferIn} {date : Instant} {amount : ℕ}
    (hdate : (Event.transferIn transfer).instant? = some date)
    (hamount : Amount.Denotes transfer.tokenAmount amount) :
    ∃ later, reconcile chainTransfers (transfersIn ++ [transfer]) = .ok later ∧
      ((∃ known ∈ transfersIn, ∃ x, (Event.transferIn known).instant? = some x ∧ x ≤ date) →
        let isBefore (entry : Entry) : Bool :=
          entry.date < date ∨ entry.date = date ∧ entry.source = .transferIn
        later.dropped = ledger.dropped ∧
          ∃ previous, (ledger.chronological.filter isBefore).getLast? = some previous ∧
            later.chronological = ledger.chronological.filter isBefore ++
              { id := { source := .transferIn, number := transfer.id }, date, delta := -amount,
                balance := previous.balance - amount, origin := .transferIn transfer } ::
              (ledger.chronological.filter (!isBefore ·)).map (Entry.shift (-amount))) ∧
      (IsEarly transfersIn date →
        ∃ revived, AreRevived chainTransfers transfersIn date (-amount) revived ∧
          later.dropped + revived.length = ledger.dropped ∧
          later.chronological =
            { id := { source := .transferIn, number := transfer.id }, date, delta := -amount,
              balance := -amount, origin := .transferIn transfer } ::
              (revived ++ ledger.chronological.map
                (Entry.shift ((revived.map Entry.delta).sum - amount)))) := by
  obtain ⟨ms, hread, rfl⟩ := reconcile_eq_ok_iff.1 h
  let m : Movement := { date, delta := -amount, origin := .transferIn transfer }
  have hm : m.IsRead := ⟨hdate, amount, hamount, rfl⟩
  obtain ⟨ms', hread', hlast⟩ := exists_read_transferIn hread hm rfl
  refine ⟨_, reconcile_eq_ok_iff.2 ⟨ms', hread', rfl⟩, fun hknown ↦ ?_, fun hearly ↦ ?_⟩
  · intro isBefore
    obtain ⟨known, hmem, x, hx, hle⟩ := hknown
    obtain ⟨debit, hdebit, hkind, rfl⟩ := (Ledger.exists_debit_iff hread x).2 ⟨known, hmem, hx⟩
    have hgroup (x : Movement) :
        x.group ≤ m.group ↔ x.date < date ∨ x.date = date ∧ x.origin.source = .transferIn := by
      rw [Ledger.group_le_iff]
      refine or_congr_right (and_congr_right fun _ ↦ ?_)
      have hcredit : Ledger.isCredit m = false := rfl
      rw [hcredit, Ledger.isCredit]
      cases x.origin.source <;> simp
    have hfirst : debit.group ≤ m.group := by
      rw [Ledger.group_le_iff]
      exact hle.lt_or_eq.imp_right fun heq ↦ ⟨heq, fun hcredit ↦ by simp [hkind] at hcredit⟩
    let test (x : Movement) : Bool :=
      x.date < date ∨ x.date = date ∧ x.origin.source = .transferIn
    have htest (entry : Entry) (hentry : entry ∈ (Ledger.ofMovements ms).chronological) :
        isBefore entry = test entry.movement := by
      have hnamed := Ledger.isNamed_ofMovements ms entry (List.mem_reverse.1 hentry)
      simp only [isBefore, test, Entry.source, hnamed, Entry.movement]
      rfl
    have hafter (entry : Entry) (hentry : entry ∈ (Ledger.ofMovements ms).chronological) :
        (!isBefore entry) = !test entry.movement := by
      rw [htest entry hentry]
    rw [List.filter_congr htest, List.filter_congr hafter]
    exact Ledger.chronological_insert hread hread' hlast hdebit hkind hfirst test
      fun x ↦ decide_eq_true_iff.trans (hgroup x).symm
  · have hfirst (x : Movement) (hx : x ∈ ms) (hkind : Ledger.isCredit x = false) :
        m.group < x.group :=
      Ledger.group_lt_of_date_lt ((isEarly_iff hread).1 hearly x hx hkind)
    obtain ⟨hshown, hdropped⟩ := Ledger.shown_insert_debit hread hread' hlast rfl hfirst
    refine ⟨_, areRevived_accumulate hread date (-amount), ?_, ?_⟩
    · rw [Ledger.length_accumulate]
      exact hdropped
    · rw [Ledger.chronological_ofMovements, Ledger.chronological_ofMovements, ← Ledger.shown,
        ← Ledger.shown, hshown, Ledger.accumulate, Ledger.accumulate_append,
        Ledger.accumulate_delta, ← Ledger.accumulate_add]
      have hfirst : 0 + m.delta = -(amount : ℤ) := zero_add _
      rw [hfirst, zero_add, sub_eq_neg_add]
      rfl

/-- A transfer-in at the instant of the chain transfer that the small account drops. -/
def sampleBackdated : TransferIn :=
  { id := 3, requestedDate := "2024-01-01", tokenAmount := "5" }

/-- In front of the small account one more transfer-in comes first, and the chain transfer that was
dropped is revived behind it. -/
theorem sample_with_transferIn : ∃ ledger later revived,
    reconcile sampleChainTransfers sampleTransfersIn = .ok ledger ∧ ledger.dropped = 1 ∧
      reconcile sampleChainTransfers (sampleTransfersIn ++ [sampleBackdated]) = .ok later ∧
      later.dropped = 0 ∧
      AreRevived sampleChainTransfers sampleTransfersIn { seconds := 1704067200, nanos := 0 } (-5)
        revived ∧ revived.length = 1 ∧
      later.chronological.map Entry.balance = [-5, 995, 895, 925, 885, 925] := by
  obtain ⟨ledger, hledger, -, hdropped, -⟩ := reconcile_sample
  have hdate : (Event.transferIn sampleBackdated).instant? =
      some { seconds := 1704067200, nanos := 0 } := by
    decide +kernel
  have hamount : Amount.Denotes sampleBackdated.tokenAmount 5 :=
    Amount.read?_eq_some_iff.1 (by decide +kernel)
  obtain ⟨later, hlater, -, hearly⟩ := reconcile_with_transferIn hledger hdate hamount
  obtain ⟨revived, hrevived, hcount, -⟩ := hearly (by decide +kernel)
  have hcomputed : (reconcile sampleChainTransfers (sampleTransfersIn ++ [sampleBackdated])).map
      (fun ledger ↦ (ledger.dropped, ledger.chronological.map Entry.balance)) =
        .ok (0, [-5, 995, 895, 925, 885, 925]) := by
    cbv
  rw [hlater] at hcomputed
  obtain ⟨hnone, hbalances⟩ := Prod.mk.inj (Except.ok.inj hcomputed)
  have hone : revived.length = 1 := by
    rw [← hdropped, ← hcount, hnone, Nat.zero_add]
  exact ⟨ledger, later, revived, hledger, hdropped, hlater, hnone, hrevived, hone, hbalances⟩

end Reconciliation

end RunningBalance
