import RunningBalance.Proofs.Ledger.Opening

/-!
# The order in which events are given

Rows stand by the groups of their events: by instant, and at one instant the transfer-ins before the
chain transfers. The order given matters only within a group. Reordered events therefore show the
same movements (`shown_perm`), again by groups (`pairwise_shown`), and every group closes with the
same balance, the sum of all changes up to it (`closing?_eq`). `reconcile_perm` is the main
statement; it adds that where no two events are of one group, the order given does not matter.
-/

set_option autoImplicit false
set_option relaxedAutoImplicit false

namespace RunningBalance

namespace Ledger

/-! ### Groups of events -/

/-- The place of the events of a kind at an instant: transfer-ins come before chain transfers. -/
def group (date : Instant) (source : Source) : Instant ×ₗ Bool :=
  toLex (date, decide (source = .chainTransfer))

theorem group_inj {date date' : Instant} {source source' : Source} :
    group date source = group date' source' ↔ date = date' ∧ source = source' := by
  cases source <;> cases source' <;> simp [group]

end Ledger

/-- The group of the event that makes a movement. -/
def Movement.group (m : Movement) : Instant ×ₗ Bool :=
  Ledger.group m.date m.origin.source

namespace Ledger

/-- One group comes before another by its instant, or at one instant by its kind. -/
theorem group_le_iff {a b : Movement} :
    a.group ≤ b.group ↔ a.date < b.date ∨ a.date = b.date ∧ (isCredit a → isCredit b) := by
  rw [Movement.group, Movement.group, group, group, Prod.Lex.toLex_le_toLex, Bool.le_iff_imp]
  rfl

theorem date_le_of_group_le {a b : Movement} (h : a.group ≤ b.group) : a.date ≤ b.date :=
  (group_le_iff.1 h).elim le_of_lt fun hsame ↦ hsame.1.le

theorem group_lt_of_date_lt {a b : Movement} (h : a.date < b.date) : a.group < b.group :=
  Prod.Lex.toLex_lt_toLex.2 (.inl h)

/-- The balance after the last row of a kind at an instant. -/
def closing? (ledger : Ledger) (date : Instant) (source : Source) : Option ℤ :=
  (ledger.chronological.filter fun entry ↦
    entry.date = date ∧ entry.source = source).getLast?.map Entry.balance

/-- The last element that passes a test is followed by none that does. -/
private theorem exists_split_of_getLast?_filter {α : Type} {test : α → Bool} {xs : List α} {x : α}
    (h : (xs.filter test).getLast? = some x) :
    ∃ earlier later, xs = earlier ++ x :: later ∧ test x ∧ ∀ y ∈ later, ¬test y := by
  rw [List.getLast?_filter, List.find?_eq_some_iff_append] at h
  obtain ⟨htest, later, earlier, hsplit, hlater⟩ := h
  refine ⟨earlier.reverse, later.reverse, ?_, htest, fun y hy ↦ ?_⟩
  · simpa using congrArg List.reverse hsplit
  · simpa using hlater y (List.mem_reverse.1 hy)

/-- The last row of a group has the sum of all changes up to the group as its balance. -/
theorem balance_of_last {rows : List Movement} {earlier later : List Entry} {entry : Entry}
    (hsorted : rows.Pairwise fun a b ↦ a.group ≤ b.group)
    (hsplit : accumulate 0 rows = earlier ++ entry :: later)
    (hlast : ∀ other ∈ later, other.movement.group ≠ entry.movement.group) :
    entry.balance =
      ((rows.filter fun m ↦ m.group ≤ entry.movement.group).map Movement.delta).sum := by
  have hrows : rows =
      earlier.map Entry.movement ++ entry.movement :: later.map Entry.movement := by
    rw [← accumulate_movement 0 rows, hsplit, List.map_append, List.map_cons]
  rw [hrows, List.pairwise_append, List.pairwise_cons] at hsorted
  have hbefore (m : Movement) (hm : m ∈ earlier.map Entry.movement) :
      m.group ≤ entry.movement.group :=
    hsorted.2.2 m hm _ List.mem_cons_self
  have hafter (m : Movement) (hm : m ∈ later.map Entry.movement) :
      ¬m.group ≤ entry.movement.group := by
    intro hle
    have heq := hle.antisymm (hsorted.2.1.1 m hm)
    obtain ⟨other, hother, rfl⟩ := List.mem_map.1 hm
    exact hlast other hother heq
  have hfilter : rows.filter (fun m ↦ m.group ≤ entry.movement.group) =
      earlier.map Entry.movement ++ [entry.movement] := by
    rw [hrows, List.filter_append, List.filter_cons, if_pos (decide_eq_true le_rfl),
      List.filter_eq_self.2 fun m hm ↦ decide_eq_true (hbefore m hm),
      List.filter_eq_nil_iff.2 fun m hm ↦ by simpa using hafter m hm]
  rw [hfilter, balance_of_accumulate hsplit, zero_add, List.map_append, List.map_map,
    List.sum_append, List.map_singleton, List.sum_singleton]
  rfl

/-- A group closes with the sum of all changes up to it. -/
theorem closing?_eq {ledger : Ledger} {rows : List Movement}
    (hrows : ledger.chronological = accumulate 0 rows)
    (hsorted : rows.Pairwise fun a b ↦ a.group ≤ b.group) (date : Instant) (source : Source) :
    ledger.closing? date source =
      if ∃ m ∈ rows, m.group = group date source then
        some ((rows.filter fun m ↦ m.group ≤ group date source).map Movement.delta).sum
      else none := by
  have hmem (m : Movement) : m ∈ rows ↔ ∃ entry ∈ ledger.chronological, entry.movement = m := by
    rw [← List.mem_map, hrows, accumulate_movement]
  have hgroup (entry : Entry) (hentry : entry ∈ ledger.chronological) :
      entry.movement.group = group date source ↔ entry.date = date ∧ entry.source = source := by
    rw [hrows] at hentry
    rw [Entry.source, id_of_mem_accumulate hentry]
    exact group_inj
  rw [closing?]
  cases hlast : (ledger.chronological.filter fun entry ↦
      entry.date = date ∧ entry.source = source).getLast? with
  | none =>
    rw [List.getLast?_eq_none_iff, List.filter_eq_nil_iff] at hlast
    rw [if_neg, Option.map_none]
    rintro ⟨m, hm, hmgroup⟩
    obtain ⟨entry, hentry, rfl⟩ := (hmem m).1 hm
    exact hlast entry hentry (decide_eq_true ((hgroup entry hentry).1 hmgroup))
  | some entry =>
    obtain ⟨earlier, later, hsplit, htest, hlater⟩ := exists_split_of_getLast?_filter hlast
    have hrow (other : Entry) (hother : other ∈ entry :: later) :
        other ∈ ledger.chronological :=
      hsplit ▸ List.mem_append_right _ hother
    have hmem' := hrow entry List.mem_cons_self
    have hentry := (hgroup entry hmem').2 (of_decide_eq_true htest)
    have hshown : entry.movement ∈ rows := (hmem _).2 ⟨entry, hmem', rfl⟩
    rw [if_pos ⟨entry.movement, hshown, hentry⟩, Option.map_some, ← hentry]
    refine congrArg some (balance_of_last hsorted (hrows ▸ hsplit) fun other hother heq ↦ ?_)
    exact hlater other hother (decide_eq_true
      ((hgroup other (hrow other (List.mem_cons_of_mem _ hother))).1 (heq.trans hentry)))

/-- Ledgers that differ at most in the order of rows within a group and in the balances inside
it. -/
structure AgreeByGroup (ledger other : Ledger) : Prop where
  dropped : ledger.dropped = other.dropped
  summary : ledger.summary = other.summary
  movements : (ledger.entries.map Entry.movement).Perm (other.entries.map Entry.movement)
  closing : ∀ date source, ledger.closing? date source = other.closing? date source

/-- The total of a kind is that of the movements of the kind. -/
theorem total_eq_sum {ledger : Ledger} (h : ledger.IsNamed) (source : Source) :
    ledger.total source = (((ledger.entries.map Entry.movement).filter fun m ↦
      m.origin.source = source).map Movement.delta).sum := by
  have hkind : ledger.entries.filter (fun entry ↦ entry.source = source) =
      ledger.entries.filter fun entry ↦ entry.movement.origin.source = source := by
    refine List.filter_congr fun entry hentry ↦ ?_
    rw [Entry.source, h entry hentry]
    rfl
  rw [total, hkind, List.filter_map, List.map_map, List.sum_eq_foldr, List.foldr_map]
  rfl

/-! ### Reordered movements -/

/-- The movements that a ledger shows, the oldest first. -/
def shown (ms : List Movement) : List Movement :=
  (sort ms).dropWhile isCredit

theorem mem_of_mem_shown {m : Movement} {ms : List Movement} (h : m ∈ shown ms) : m ∈ ms :=
  mem_sort.1 ((List.dropWhile_sublist _).subset h)

theorem entries_movement (ms : List Movement) :
    (ofMovements ms).entries.map Entry.movement = (shown ms).reverse := by
  rw [ofMovements, List.map_reverse, accumulate_movement]
  rfl

theorem currentBalance_ofMovements (ms : List Movement) :
    (ofMovements ms).currentBalance = ((shown ms).map Movement.delta).sum := by
  have hentries : (ofMovements ms).entries.map Entry.delta =
      ((ofMovements ms).entries.map Entry.movement).map Movement.delta := by
    rw [List.map_map]
    rfl
  rw [currentBalance_eq_sum, hentries, entries_movement, List.map_reverse, List.sum_reverse]
  intro earlier entry later hsplit
  rw [chronological_ofMovements] at hsplit
  rw [balance_of_accumulate hsplit, zero_add]

section AreRead

variable {chainTransfers chainTransfers' : List ChainTransfer}
  {transfersIn transfersIn' : List TransferIn} {ms ms' : List Movement}

/-- The movements of an account are sorted by their groups. -/
theorem pairwise_sort (hread : AreRead ms (events chainTransfers transfersIn)) :
    (sort ms).Pairwise fun a b ↦ a.group ≤ b.group := by
  have hsorted := StableSort.pairwise_sortByKey Movement.date (pairwise_isCredit hread)
  rw [← sort_eq_sortByKey] at hsorted
  exact hsorted.imp group_le_iff.2

/-- The movements of an account are shown by their groups. -/
theorem pairwise_shown (hread : AreRead ms (events chainTransfers transfersIn)) :
    (shown ms).Pairwise fun a b ↦ a.group ≤ b.group :=
  (pairwise_sort hread).sublist (List.dropWhile_sublist _)

/-- An account without a transfer-in shows nothing. -/
theorem shown_eq_nil (hread : AreRead ms (events chainTransfers transfersIn))
    (hnil : transfersIn = []) : shown ms = [] := by
  rw [← List.reverse_eq_nil_iff, ← entries_movement, entries_ofMovements_eq_nil hread hnil]
  rfl

/-- Reordered events show reordered movements. -/
theorem shown_perm (hread : AreRead ms (events chainTransfers transfersIn))
    (hread' : AreRead ms' (events chainTransfers' transfersIn'))
    (hin : transfersIn.Perm transfersIn') (hms : ms.Perm ms') : (shown ms).Perm (shown ms') := by
  by_cases hnil : transfersIn = []
  · rw [shown_eq_nil hread hnil, shown_eq_nil hread' (hnil ▸ hin).nil_eq.symm]
  · obtain ⟨opening, hopening⟩ := exists_isOpening hread hnil
    have hopening' : IsOpening transfersIn' opening := by
      simpa only [IsOpening, hin.mem_iff] using hopening
    have hsort : (sort ms).Perm (sort ms') :=
      (List.mergeSort_perm _ _).trans (hms.trans (List.mergeSort_perm _ _).symm)
    rw [shown, shown, dropWhile_sort (pairwise_isCredit hread) ((opens_iff hread).2 hopening),
      dropWhile_sort (pairwise_isCredit hread') ((opens_iff hread').2 hopening')]
    exact hsort.filter _

/-- Ledgers of reordered events agree by group. -/
theorem agreeByGroup_ofMovements (hread : AreRead ms (events chainTransfers transfersIn))
    (hread' : AreRead ms' (events chainTransfers' transfersIn'))
    (hin : transfersIn.Perm transfersIn') (hms : ms.Perm ms') :
    (ofMovements ms).AgreeByGroup (ofMovements ms') := by
  have hshown := shown_perm hread hread' hin hms
  have hmovements : ((ofMovements ms).entries.map Entry.movement).Perm
      ((ofMovements ms').entries.map Entry.movement) := by
    rw [entries_movement, entries_movement]
    exact (List.reverse_perm _).trans (hshown.trans (List.reverse_perm _).symm)
  have hsize : (ofMovements ms).size = (ofMovements ms').size := by
    rw [size, size]
    simpa only [List.length_map] using hmovements.length_eq
  have hdropped : (ofMovements ms).dropped = (ofMovements ms').dropped := by
    refine Nat.add_left_cancel (n := (ofMovements ms).size) ?_
    rw [size_add_dropped, hsize, size_add_dropped, hms.length_eq]
  have htotal (source : Source) :
      (ofMovements ms).total source = (ofMovements ms').total source := by
    rw [total_eq_sum (isNamed_ofMovements ms), total_eq_sum (isNamed_ofMovements ms')]
    exact ((hmovements.filter _).map _).sum_eq
  have hbalance : (ofMovements ms).currentBalance = (ofMovements ms').currentBalance := by
    rw [currentBalance_ofMovements, currentBalance_ofMovements]
    exact (hshown.map _).sum_eq
  refine ⟨hdropped, ?_, hmovements, fun date source ↦ ?_⟩
  · rw [summary, summary, htotal, htotal, hbalance, hsize, hdropped]
  · have hmem : (∃ m ∈ shown ms, m.group = group date source) ↔
        ∃ m ∈ shown ms', m.group = group date source := by
      simp only [hshown.mem_iff]
    rw [closing?_eq (chronological_ofMovements ms) (pairwise_shown hread),
      closing?_eq (chronological_ofMovements ms') (pairwise_shown hread')]
    exact if_congr hmem (congrArg some ((hshown.filter _).map _).sum_eq) rfl

/-- Without two events of one kind at one instant a movement is told by its group. -/
theorem eq_of_group_eq (hread : AreRead ms (events chainTransfers transfersIn))
    (hchainNodup :
      (chainTransfers.map fun transfer ↦ (Event.chainTransfer transfer).instant?).Nodup)
    (hinNodup : (transfersIn.map fun transfer ↦ (Event.transferIn transfer).instant?).Nodup)
    {a b : Movement} (ha : a ∈ ms) (hb : b ∈ ms) (hgroup : a.group = b.group) : a = b := by
  have hnodup : ((events chainTransfers transfersIn).map fun event ↦
      (event.instant?, event.source)).Nodup := by
    rw [events, List.map_append, List.map_map, List.map_map, List.nodup_append]
    refine ⟨.of_map Prod.fst ?_, .of_map Prod.fst ?_, ?_⟩
    · rw [List.map_map]
      exact hinNodup
    · rw [List.map_map]
      exact hchainNodup
    · intro x hx y hy heq
      obtain ⟨debit, -, rfl⟩ := List.mem_map.1 hx
      obtain ⟨credit, -, rfl⟩ := List.mem_map.1 hy
      cases congrArg Prod.snd heq
  rw [← hread.origin, List.map_map] at hnodup
  obtain ⟨hdate, hsource⟩ := group_inj.1 hgroup
  refine List.inj_on_of_nodup_map hnodup ha hb ?_
  simp only [Function.comp_apply, (hread.isRead a ha).date, (hread.isRead b hb).date, hdate,
    hsource]

/-- Reordered movements of which no two have one group make the same ledger. -/
theorem ofMovements_eq (hread : AreRead ms (events chainTransfers transfersIn))
    (hread' : AreRead ms' (events chainTransfers' transfersIn'))
    (hin : transfersIn.Perm transfersIn') (hms : ms.Perm ms')
    (htold : ∀ a ∈ ms, ∀ b ∈ ms, a.group = b.group → a = b) :
    ofMovements ms = ofMovements ms' := by
  have hshown : shown ms = shown ms' := by
    refine List.Perm.eq_of_pairwise (fun a b ha hb hab hba ↦ ?_) (pairwise_shown hread)
      (pairwise_shown hread') (shown_perm hread hread' hin hms)
    exact htold a (mem_of_mem_shown ha) b (hms.mem_iff.2 (mem_of_mem_shown hb)) (hab.antisymm hba)
  have hentries : (ofMovements ms).entries = (ofMovements ms').entries :=
    congrArg (fun rows ↦ (accumulate 0 rows).reverse) hshown
  exact congrArg₂ Ledger.mk hentries (agreeByGroup_ofMovements hread hread' hin hms).dropped

end AreRead

end Ledger

/-! ### Reordered events -/

/-- Movements can be read off reordered events too, and are reordered like these. -/
theorem AreRead.exists_perm {ms : List Movement} {given given' : List Event}
    (hread : AreRead ms given) (hgiven : given.Perm given') :
    ∃ ms', AreRead ms' given' ∧ ms.Perm ms' := by
  rw [← hread.origin] at hgiven
  have hcomp : Relation.Comp (· = List.map Movement.origin ·) List.Perm given' ms := by
    rw [List.eq_map_comp_perm]
    exact hgiven.symm
  obtain ⟨ms', horigin, hms⟩ := hcomp
  exact ⟨ms', ⟨horigin.symm, fun m hm ↦ hread.isRead m (hms.mem_iff.1 hm)⟩, hms.symm⟩

section Reconciliation

variable {chainTransfers chainTransfers' : List ChainTransfer}
  {transfersIn transfersIn' : List TransferIn}

theorem events_perm (hchain : chainTransfers.Perm chainTransfers')
    (hin : transfersIn.Perm transfersIn') :
    (events chainTransfers transfersIn).Perm (events chainTransfers' transfersIn') :=
  (hin.map _).append (hchain.map _)

/-- A ledger of events comes with one of the events reordered. -/
theorem exists_reconcile_perm (hchain : chainTransfers.Perm chainTransfers')
    (hin : transfersIn.Perm transfersIn') {ledger : Ledger}
    (h : reconcile chainTransfers transfersIn = .ok ledger) :
    ∃ ms ms', AreRead ms (events chainTransfers transfersIn) ∧
      AreRead ms' (events chainTransfers' transfersIn') ∧ ms.Perm ms' ∧
      ledger = Ledger.ofMovements ms ∧
      reconcile chainTransfers' transfersIn' = .ok (Ledger.ofMovements ms') := by
  obtain ⟨ms, hread, rfl⟩ := reconcile_eq_ok_iff.1 h
  obtain ⟨ms', hread', hms⟩ := hread.exists_perm (events_perm hchain hin)
  exact ⟨ms, ms', hread, hread', hms, rfl, reconcile_eq_ok_iff.2 ⟨ms', hread', rfl⟩⟩

/-- Reordered events make a ledger if and only if the events do. Both ledgers drop the same number,
have the same totals, show the same movements, and have the same balance after the last row of every
kind and instant. Without two events of one kind at one instant they are equal. -/
theorem reconcile_perm (hchain : chainTransfers.Perm chainTransfers')
    (hin : transfersIn.Perm transfersIn') :
    ((∃ ledger, reconcile chainTransfers transfersIn = .ok ledger) ↔
        ∃ other, reconcile chainTransfers' transfersIn' = .ok other) ∧
      ∀ ledger other, reconcile chainTransfers transfersIn = .ok ledger →
        reconcile chainTransfers' transfersIn' = .ok other →
        ledger.AgreeByGroup other ∧
          ((transfersIn.map fun transfer ↦ (Event.transferIn transfer).instant?).Nodup →
            (chainTransfers.map fun transfer ↦ (Event.chainTransfer transfer).instant?).Nodup →
            ledger = other) := by
  refine ⟨⟨fun ⟨ledger, h⟩ ↦ ?_, fun ⟨other, h⟩ ↦ ?_⟩, fun ledger other h hother ↦ ?_⟩
  · obtain ⟨ms, ms', -, -, -, -, hother⟩ := exists_reconcile_perm hchain hin h
    exact ⟨_, hother⟩
  · obtain ⟨ms, ms', -, -, -, -, hledger⟩ := exists_reconcile_perm hchain.symm hin.symm h
    exact ⟨_, hledger⟩
  · obtain ⟨ms, ms', hread, hread', hms, rfl, hreordered⟩ := exists_reconcile_perm hchain hin h
    obtain rfl : other = Ledger.ofMovements ms' :=
      Except.ok.inj (hother.symm.trans hreordered)
    refine ⟨Ledger.agreeByGroup_ofMovements hread hread' hin hms, fun hinNodup hchainNodup ↦ ?_⟩
    exact Ledger.ofMovements_eq hread hread' hin hms fun a ha b hb hgroup ↦
      Ledger.eq_of_group_eq hread hchainNodup hinNodup ha hb hgroup

/-- No two events of the small account have one kind and one instant, so it has the same ledger when
its events are given in reverse. -/
theorem sample_perm : ∃ ledger, reconcile sampleChainTransfers sampleTransfersIn = .ok ledger ∧
    ledger.size = 4 ∧
    reconcile sampleChainTransfers.reverse sampleTransfersIn.reverse = .ok ledger := by
  obtain ⟨ledger, hledger, hsize, -⟩ := reconcile_sample
  obtain ⟨hiff, hagree⟩ := reconcile_perm sampleChainTransfers.reverse_perm.symm
    sampleTransfersIn.reverse_perm.symm
  obtain ⟨other, hother⟩ := hiff.1 ⟨ledger, hledger⟩
  obtain rfl : ledger = other :=
    (hagree ledger other hledger hother).2 (by decide +kernel) (by decide +kernel)
  exact ⟨ledger, hledger, hsize, hother⟩

/-- Balances inside a group depend on the order given, the balance at its end does not. -/
example :
    let tied := sampleTransfersIn.map fun transfer ↦
      { transfer with requestedDate := "2024-01-02T00:00:00Z" }
    let balances := fun ledger : Ledger ↦ ledger.chronological.map Entry.balance
    (reconcile sampleChainTransfers tied).map balances = .ok [-40, -140, -110, -70] ∧
      (reconcile sampleChainTransfers tied.reverse).map balances = .ok [-100, -140, -110, -70] := by
  constructor <;> cbv

end Reconciliation

end RunningBalance
