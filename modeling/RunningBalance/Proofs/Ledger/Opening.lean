import RunningBalance.Proofs.Instant
import RunningBalance.Proofs.Ledger.Balance
import RunningBalance.Proofs.StableSort

/-!
# Where a ledger starts

A ledger starts with the earliest transfer-in (`IsOpening`). What sorting puts before it is exactly
what is of an earlier instant, because a transfer-in comes before the chain transfers of its
instant: `dropWhile_sort` and `takeWhile_sort` restate the cut at a position as a cut at an instant.
`size_add_dropped` says that nothing is lost.
-/

set_option autoImplicit false
set_option relaxedAutoImplicit false

namespace RunningBalance

/-- The earliest instant of a transfer-in. -/
def IsOpening (transfersIn : List TransferIn) (opening : Instant) : Prop :=
  IsLeast {x | ∃ transfer ∈ transfersIn, (Event.transferIn transfer).instant? = some x} opening

namespace Ledger

/-- The least instant of a movement that is no credit. -/
def Opens (ms : List Movement) (opening : Instant) : Prop :=
  IsLeast {x | ∃ m ∈ ms, isCredit m = false ∧ m.date = x} opening

theorem sort_eq_sortByKey (ms : List Movement) :
    sort ms = StableSort.sortByKey Movement.date ms :=
  rfl

theorem mem_sort {m : Movement} {ms : List Movement} : m ∈ sort ms ↔ m ∈ ms :=
  List.mem_mergeSort

/-- Some least instant is that of a debit if there are debits at all. -/
theorem exists_opens {ms : List Movement} {m : Movement} (hm : m ∈ ms)
    (hdebit : isCredit m = false) : ∃ opening, Opens ms opening := by
  have hfinite : {other | other ∈ ms ∧ isCredit other = false}.Finite :=
    (List.finite_toSet ms).subset fun _ h ↦ h.1
  obtain ⟨least, ⟨hmem, hleast⟩, hle⟩ :=
    Set.exists_min_image _ Movement.date hfinite ⟨m, hm, hdebit⟩
  refine ⟨least.date, ⟨least, hmem, hleast, rfl⟩, ?_⟩
  rintro x ⟨other, hother, hotherDebit, rfl⟩
  exact hle other ⟨hother, hotherDebit⟩

section Opening

variable {ms : List Movement} {opening : Instant}

/-- Where debits are given before credits, sorting puts what is earlier than the first debit before
it, and all else behind it. -/
theorem date_of_split_sort (horder : ms.Pairwise fun a b ↦ isCredit a → isCredit b)
    (hopens : Opens ms opening) :
    (∀ m ∈ (sort ms).takeWhile isCredit, m.date < opening) ∧
      ∀ m ∈ (sort ms).dropWhile isCredit, opening ≤ m.date := by
  obtain ⟨⟨first, hfirst, hdebit, rfl⟩, hleast⟩ := hopens
  have hsplit : (sort ms).takeWhile isCredit ++ (sort ms).dropWhile isCredit = sort ms :=
    List.takeWhile_append_dropWhile
  have hsorted := StableSort.pairwise_sortByKey Movement.date horder
  have hdropped : first ∈ (sort ms).dropWhile isCredit := by
    have hmem := mem_sort.2 hfirst
    rw [← hsplit, List.mem_append] at hmem
    refine hmem.resolve_left fun htaken ↦ ?_
    rw [List.mem_takeWhile_imp htaken] at hdebit
    cases hdebit
  rw [← sort_eq_sortByKey, ← hsplit, List.pairwise_append] at hsorted
  cases hrows : (sort ms).dropWhile isCredit with
  | nil => rw [hrows] at hdropped; cases hdropped
  | cons head later =>
    rw [hrows] at hsorted hdropped
    have hhead : isCredit head = false := by
      have hnot := List.head_dropWhile_not isCredit (l := sort ms) (by simp [hrows])
      simpa only [hrows, List.head_cons] using hnot
    have hmem : head ∈ ms := by
      rw [← mem_sort, ← hsplit, hrows]
      exact List.mem_append_right _ List.mem_cons_self
    have hle : first.date ≤ head.date := hleast ⟨head, hmem, hhead, rfl⟩
    have hge (m : Movement) (hm : m ∈ head :: later) : head.date ≤ m.date := by
      rcases List.mem_cons.1 hm with rfl | hm
      · exact Instant.le_refl _
      · rcases (List.pairwise_cons.1 hsorted.2.1).1 m hm with hlt | ⟨heq, -⟩
        · exact hlt.le
        · exact heq.le
    refine ⟨fun m hm ↦ ?_, fun m hm ↦ hle.trans (hge m hm)⟩
    -- A credit of the first debit's instant would have been given after it.
    rcases hsorted.2.2 m hm head List.mem_cons_self with hlt | ⟨-, hcredit⟩
    · exact hlt.trans_le (hge first hdropped)
    · rw [hcredit (List.mem_takeWhile_imp hm)] at hhead
      cases hhead

/-- What remains is what is not earlier than the first debit. -/
theorem dropWhile_sort (horder : ms.Pairwise fun a b ↦ isCredit a → isCredit b)
    (hopens : Opens ms opening) :
    (sort ms).dropWhile isCredit = (sort ms).filter fun m ↦ opening ≤ m.date := by
  obtain ⟨hearly, hlate⟩ := date_of_split_sort horder hopens
  conv_rhs => rw [← List.takeWhile_append_dropWhile (p := isCredit) (l := sort ms)]
  rw [List.filter_append, List.filter_eq_nil_iff.2, List.filter_eq_self.2, List.nil_append]
  · exact fun m hm ↦ decide_eq_true (hlate m hm)
  · exact fun m hm ↦ by simpa using hearly m hm

/-- What is dropped is what is earlier than the first debit. -/
theorem takeWhile_sort (horder : ms.Pairwise fun a b ↦ isCredit a → isCredit b)
    (hopens : Opens ms opening) :
    (sort ms).takeWhile isCredit = (sort ms).filter fun m ↦ m.date < opening := by
  obtain ⟨hearly, hlate⟩ := date_of_split_sort horder hopens
  conv_rhs => rw [← List.takeWhile_append_dropWhile (p := isCredit) (l := sort ms)]
  rw [List.filter_append, List.filter_eq_self.2, List.filter_eq_nil_iff.2, List.append_nil]
  · exact fun m hm ↦ by simpa using hlate m hm
  · exact fun m hm ↦ decide_eq_true (hearly m hm)

end Opening

/-- Every movement is shown as a row or dropped. -/
theorem size_add_dropped (ms : List Movement) :
    (ofMovements ms).size + (ofMovements ms).dropped = ms.length := by
  have hsplit := congrArg List.length
    (List.takeWhile_append_dropWhile (p := isCredit) (l := sort ms))
  rw [List.length_append, sort, List.length_mergeSort, ← sort] at hsplit
  rw [size, ofMovements, List.length_reverse, length_accumulate, ← hsplit, Nat.add_comm]

/-- The number of movements whose instants pass a test is that of their events. -/
theorem countP_date {ms : List Movement} {given : List Event} (hread : AreRead ms given)
    (test : Instant → Bool) :
    ms.countP (fun m ↦ test m.date) = given.countP fun event ↦ event.instant?.any test := by
  rw [← hread.origin, List.countP_map]
  refine List.countP_congr fun m hm ↦ ?_
  simp [(hread.isRead m hm).date]

section AreRead

variable {chainTransfers : List ChainTransfer} {transfersIn : List TransferIn} {ms : List Movement}

/-- The movements of an account have its debits first. -/
theorem pairwise_isCredit (hread : AreRead ms (events chainTransfers transfersIn)) :
    ms.Pairwise fun a b ↦ isCredit a → isCredit b := by
  have hevents : (events chainTransfers transfersIn).Pairwise fun a b ↦
      a.source = .chainTransfer → b.source = .chainTransfer := by
    rw [events, List.pairwise_append, List.pairwise_map, List.pairwise_map]
    refine ⟨?_, ?_, fun a _ b hb _ ↦ ?_⟩
    · exact List.pairwise_of_forall fun _ _ h ↦ by cases h
    · exact List.pairwise_of_forall fun _ _ _ ↦ rfl
    · obtain ⟨transfer, -, rfl⟩ := List.mem_map.1 hb
      rfl
  rw [← hread.origin, List.pairwise_map] at hevents
  exact hevents.imp fun h ↦ by simpa only [isCredit, decide_eq_true_eq] using h

/-- The debits of an account are its transfer-ins, at their instants. -/
theorem exists_debit_iff (hread : AreRead ms (events chainTransfers transfersIn)) (x : Instant) :
    (∃ m ∈ ms, isCredit m = false ∧ m.date = x) ↔
      ∃ transfer ∈ transfersIn, (Event.transferIn transfer).instant? = some x := by
  constructor
  · rintro ⟨m, hm, hdebit, rfl⟩
    have hmem := hread.origin_mem hm
    have hinstant := (hread.isRead m hm).date
    cases horigin : m.origin with
    | chainTransfer transfer => simp [isCredit, horigin, Event.source] at hdebit
    | transferIn transfer =>
      rw [horigin] at hmem hinstant
      exact ⟨transfer, transferIn_mem_events.1 hmem, hinstant⟩
  · rintro ⟨transfer, hmem, hinstant⟩
    obtain ⟨m, hm, horigin⟩ := hread.exists_of_mem (transferIn_mem_events.2 hmem)
    refine ⟨m, hm, by simp [isCredit, horigin, Event.source], ?_⟩
    rw [← horigin, (hread.isRead m hm).date, Option.some.injEq] at hinstant
    exact hinstant

/-- The movements of an account open at the earliest instant of a transfer-in. -/
theorem opens_iff (hread : AreRead ms (events chainTransfers transfersIn)) {opening : Instant} :
    Opens ms opening ↔ IsOpening transfersIn opening := by
  simp only [Opens, IsOpening, exists_debit_iff hread]

/-- An account with a transfer-in has an earliest one. -/
theorem exists_isOpening (hread : AreRead ms (events chainTransfers transfersIn))
    (hne : transfersIn ≠ []) : ∃ opening, IsOpening transfersIn opening := by
  obtain ⟨transfer, hmem⟩ := List.exists_mem_of_ne_nil transfersIn hne
  obtain ⟨m, hm, horigin⟩ := hread.exists_of_mem (transferIn_mem_events.2 hmem)
  obtain ⟨opening, hopens⟩ := exists_opens hm (by simp [isCredit, horigin, Event.source])
  exact ⟨opening, (opens_iff hread).1 hopens⟩

/-- An account without a transfer-in has no rows. -/
theorem entries_ofMovements_eq_nil (hread : AreRead ms (events chainTransfers transfersIn))
    (hnil : transfersIn = []) : (ofMovements ms).entries = [] := by
  have hcredit : ∀ m ∈ sort ms, isCredit m = true := by
    intro m hm
    by_contra hdebit
    rw [Bool.not_eq_true] at hdebit
    obtain ⟨transfer, hmem, -⟩ := (exists_debit_iff hread m.date).1 ⟨m, mem_sort.1 hm, hdebit, rfl⟩
    rw [hnil] at hmem
    cases hmem
  rw [ofMovements, List.reverse_eq_nil_iff, List.dropWhile_eq_nil_iff.2 hcredit, accumulate]

/-- An account without a transfer-in drops all its chain transfers. -/
theorem dropped_ofMovements_of_nil (hread : AreRead ms (events chainTransfers transfersIn))
    (hnil : transfersIn = []) : (ofMovements ms).dropped = chainTransfers.length := by
  have hsize := size_add_dropped ms
  rw [hread.length, size, entries_ofMovements_eq_nil hread hnil, hnil] at hsize
  simpa only [List.length_nil, Nat.zero_add, Nat.add_zero] using hsize

/-- The rows of an account with a transfer-in are its movements from the opening on. -/
theorem rows_ofMovements (hread : AreRead ms (events chainTransfers transfersIn))
    {opening : Instant} (hopening : IsOpening transfersIn opening) :
    (ofMovements ms).chronological.map Entry.movement =
      (sort ms).filter fun m ↦ opening ≤ m.date := by
  rw [chronological_ofMovements, accumulate_movement,
    dropWhile_sort (pairwise_isCredit hread) ((opens_iff hread).2 hopening)]

/-- Every transfer-in of an account has a row. -/
theorem exists_row (hread : AreRead ms (events chainTransfers transfersIn))
    {transfer : TransferIn} (hmem : transfer ∈ transfersIn) :
    ∃ entry ∈ (ofMovements ms).entries, entry.origin = .transferIn transfer := by
  obtain ⟨opening, hopening⟩ := exists_isOpening hread (List.ne_nil_of_mem hmem)
  obtain ⟨m, hm, horigin⟩ := hread.exists_of_mem (transferIn_mem_events.2 hmem)
  have hinstant := (hread.isRead m hm).date
  rw [horigin] at hinstant
  have hle : opening ≤ m.date := hopening.2 ⟨transfer, hmem, hinstant⟩
  have hrow : m ∈ (ofMovements ms).chronological.map Entry.movement := by
    rw [rows_ofMovements hread hopening, List.mem_filter]
    exact ⟨mem_sort.2 hm, decide_eq_true hle⟩
  obtain ⟨entry, hentry, rfl⟩ := List.mem_map.1 hrow
  exact ⟨entry, List.mem_reverse.1 hentry, horigin⟩

/-- An account drops its chain transfers before the opening. -/
theorem dropped_ofMovements (hread : AreRead ms (events chainTransfers transfersIn))
    {opening : Instant} (hopening : IsOpening transfersIn opening) :
    (ofMovements ms).dropped = chainTransfers.countP fun transfer ↦
      (Event.chainTransfer transfer).instant?.any (· < opening) := by
  have hnone : transfersIn.countP
      (fun transfer ↦ (Event.transferIn transfer).instant?.any (· < opening)) = 0 := by
    refine List.countP_eq_zero.2 fun transfer hmem hany ↦ ?_
    obtain ⟨x, hx, hlt⟩ := (Option.any_eq_true _ _).1 hany
    exact not_lt_of_ge (hopening.2 ⟨transfer, hmem, hx⟩) (of_decide_eq_true hlt)
  have hevents := countP_date hread (· < opening)
  rw [events, List.countP_append, List.countP_map, List.countP_map] at hevents
  rw [ofMovements,
    takeWhile_sort (pairwise_isCredit hread) ((opens_iff hread).2 hopening),
    ← List.countP_eq_length_filter, sort, (List.mergeSort_perm _ _).countP_eq, hevents]
  exact (congrArg (· + _) hnone).trans (Nat.zero_add _)

end AreRead

end Ledger

end RunningBalance
