import RunningBalance.Proofs.Ledger.Reordering

/-!
# Events with other dates

Dates enter a ledger only by the order of their instants. Events are redated (`AreRedated`) if each
keeps its name and its amount, and if any two of them still compare in time as they did. Sorting
then moves the events of equal places alike (`map_undated_sort`), and what comes after it reads no
dates (`agreeButDates_ofMovements`). `reconcile_redated` is the main statement.
-/

set_option autoImplicit false
set_option relaxedAutoImplicit false

namespace RunningBalance

/-! ### What is left without dates -/

/-- The name of an event and the change that it makes. -/
def Movement.undated (m : Movement) : EventId × ℤ :=
  (m.origin.id, m.delta)

/-- A row without its date: the name of its event, the change, and the balance after it. -/
def Entry.undated (entry : Entry) : EventId × ℤ × ℤ :=
  (entry.id, entry.delta, entry.balance)

namespace Ledger

/-- Ledgers that drop the same number and whose rows differ at most in their dates. -/
structure AgreeButDates (ledger other : Ledger) : Prop where
  dropped : ledger.dropped = other.dropped
  rows : ledger.entries.map Entry.undated = other.entries.map Entry.undated

section Agreement

variable {ledger other : Ledger}

theorem AgreeButDates.size (h : ledger.AgreeButDates other) : ledger.size = other.size := by
  have hlength := congrArg List.length h.rows
  rwa [List.length_map, List.length_map] at hlength

theorem AgreeButDates.currentBalance (h : ledger.AgreeButDates other) :
    ledger.currentBalance = other.currentBalance := by
  have hrows := h.rows
  rw [Ledger.currentBalance, Ledger.currentBalance]
  cases hentries : ledger.entries with
  | nil =>
    rw [hentries, List.map_nil, eq_comm, List.map_eq_nil_iff] at hrows
    rw [hrows]
  | cons entry earlier =>
    rw [hentries, List.map_cons, eq_comm, List.map_eq_cons_iff] at hrows
    obtain ⟨entry', earlier', hother, hentry, -⟩ := hrows
    rw [hother]
    exact (congrArg (fun row ↦ row.2.2) hentry).symm

theorem AgreeButDates.total (h : ledger.AgreeButDates other) (source : Source) :
    ledger.total source = other.total source := by
  have htotal (ledger : Ledger) : ledger.total source =
      (((ledger.entries.map Entry.undated).filter fun row ↦ row.1.source = source).map
        fun row ↦ row.2.1).sum := by
    rw [Ledger.total, List.filter_map, List.map_map, List.sum_eq_foldr, List.foldr_map]
    rfl
  rw [htotal, htotal, h.rows]

theorem AgreeButDates.summary (h : ledger.AgreeButDates other) :
    ledger.summary = other.summary := by
  rw [Ledger.summary, Ledger.summary, h.total, h.total, h.currentBalance, h.size, h.dropped]

end Agreement

/-- Balances depend on the changes alone. -/
theorem accumulate_undated {ms ms' : List Movement} (balance : ℤ)
    (h : ms.map Movement.undated = ms'.map Movement.undated) :
    (accumulate balance ms).map Entry.undated = (accumulate balance ms').map Entry.undated := by
  induction ms generalizing balance ms' with
  | nil =>
    rw [List.map_nil, eq_comm, List.map_eq_nil_iff] at h
    rw [h]
  | cons m ms ih =>
    rw [List.map_cons, eq_comm, List.map_eq_cons_iff] at h
    obtain ⟨m', later, rfl, hm, hlater⟩ := h
    obtain ⟨hid, hdelta⟩ := Prod.mk.inj hm
    rw [accumulate, accumulate, List.map_cons, List.map_cons, hdelta, ih _ hlater.symm]
    exact congrArg (fun id ↦ (id, m.delta, balance + m.delta) :: _) hid.symm

/-- Once movements are sorted their dates do not matter: neither to the cut nor to the balances. -/
theorem agreeButDates_ofMovements {ms ms' : List Movement}
    (h : (sort ms).map Movement.undated = (sort ms').map Movement.undated) :
    (ofMovements ms).AgreeButDates (ofMovements ms') := by
  let isCreditId : EventId × ℤ → Bool := fun row ↦ row.1.source = .chainTransfer
  have hcredit : isCredit = isCreditId ∘ Movement.undated := rfl
  constructor
  · have htake := congrArg (fun rows ↦ (rows.takeWhile isCreditId).length) h
    rw [List.takeWhile_map, List.takeWhile_map, List.length_map, List.length_map, ← hcredit]
      at htake
    exact htake
  · have hdrop := congrArg (List.dropWhile isCreditId) h
    rw [List.dropWhile_map, List.dropWhile_map, ← hcredit] at hdrop
    rw [ofMovements, ofMovements, List.map_reverse, List.map_reverse, accumulate_undated 0 hdrop]

end Ledger

/-! ### Redated events -/

namespace Event

/-- Two events of one name and one amount; their dates and all else may differ. -/
structure IsCounterpart (event other : Event) : Prop where
  id : event.id = other.id
  amount : ∀ amount,
    Amount.Denotes event.amountText amount ↔ Amount.Denotes other.amountText amount

/-- How two events compare in time. -/
def comparison? (event other : Event) : Option Ordering :=
  Option.map₂ cmp event.instant? other.instant?

end Event

/-- Events with other dates: each has a counterpart at its place, and any two of them compare in
time as their counterparts do. -/
structure AreRedated (given redated : List Event) : Prop where
  counterpart : List.Forall₂ Event.IsCounterpart given redated
  comparison : ∀ a ∈ given.zip redated, ∀ b ∈ given.zip redated,
    a.1.comparison? b.1 = a.2.comparison? b.2

section Reading

variable {ms ms' : List Movement} {given redated : List Event}

/-- Counterparts make one change. -/
theorem Movement.IsRead.undated_eq {m m' : Movement} (hm : m.IsRead) (hm' : m'.IsRead)
    (h : m.origin.IsCounterpart m'.origin) : m.undated = m'.undated := by
  obtain ⟨amount, hamount, hdelta⟩ := hm.delta
  obtain ⟨amount', hamount', hdelta'⟩ := hm'.delta
  have hsame : amount = amount' := ((h.amount amount).1 hamount).2.trans hamount'.2.symm
  have hsource : m.origin.source = m'.origin.source := congrArg EventId.source h.id
  have hsigned : m.origin.signed amount = m'.origin.signed amount := by
    cases horigin : m.origin <;> cases horigin' : m'.origin <;>
      simp_all [Event.signed, Event.source]
  rw [Movement.undated, Movement.undated, h.id, hdelta, hdelta', ← hsame, hsigned]

/-- Movements of redated events compare as the events do. -/
theorem date_le_iff_of_comparison {a b a' b' : Movement} (ha : a.IsRead) (hb : b.IsRead)
    (ha' : a'.IsRead) (hb' : b'.IsRead)
    (h : a.origin.comparison? b.origin = a'.origin.comparison? b'.origin) :
    a.date ≤ b.date ↔ a'.date ≤ b'.date := by
  rw [Event.comparison?, Event.comparison?, ha.date, hb.date, ha'.date, hb'.date] at h
  exact le_iff_le_of_cmp_eq_cmp (Option.some.inj h)

/-- Sorting puts redated events in the same order. -/
theorem Ledger.map_undated_sort (hread : AreRead ms given) (hread' : AreRead ms' redated)
    (h : AreRedated given redated) :
    (sort ms).map Movement.undated = (sort ms').map Movement.undated := by
  have hlength : ms.length = ms'.length := by
    have hevents := h.counterpart.length_eq
    rwa [← hread.origin, ← hread'.origin, List.length_map, List.length_map] at hevents
  -- Movements of equal places are sorted as pairs, by the date of either.
  let pairs := ms.zip ms'
  have hfst : pairs.map Prod.fst = ms := List.map_fst_zip hlength.le
  have hsnd : pairs.map Prod.snd = ms' := List.map_snd_zip hlength.ge
  have hevents (p : Movement × Movement) (hp : p ∈ pairs) :
      (p.1.origin, p.2.origin) ∈ given.zip redated := by
    rw [← hread.origin, ← hread'.origin, List.zip_map]
    exact List.mem_map_of_mem hp
  have hisRead (p : Movement × Movement) (hp : p ∈ pairs) : p.1.IsRead ∧ p.2.IsRead :=
    ⟨hread.isRead _ (List.of_mem_zip hp).1, hread'.isRead _ (List.of_mem_zip hp).2⟩
  have hcompare : ∀ p ∈ pairs, ∀ q ∈ pairs, p.1.date ≤ q.1.date ↔ p.2.date ≤ q.2.date := by
    intro p hp q hq
    exact date_le_iff_of_comparison (hisRead p hp).1 (hisRead q hq).1 (hisRead p hp).2
      (hisRead q hq).2 (h.comparison _ (hevents p hp) _ (hevents q hq))
  have hundated (p : Movement × Movement) (hp : p ∈ pairs) : p.1.undated = p.2.undated :=
    (hisRead p hp).1.undated_eq (hisRead p hp).2
      ((List.forall₂_iff_zip.1 h.counterpart).2 (hevents p hp))
  rw [← hfst, ← hsnd, sort_eq_sortByKey, sort_eq_sortByKey, ← StableSort.map_sortByKey,
    ← StableSort.map_sortByKey, StableSort.sortByKey_congr_key hcompare, List.map_map,
    List.map_map]
  exact List.map_congr_left fun p hp ↦ hundated p ((StableSort.sortByKey_perm _ _).mem_iff.1 hp)

end Reading

section Reconciliation

variable {chainTransfers chainTransfers' : List ChainTransfer}
  {transfersIn transfersIn' : List TransferIn} {ledger other : Ledger}

/-- Two accounts of which one is the other with other dates have ledgers of one length that drop the
same number, have the same totals, and show in each row the same event, change and balance. -/
theorem reconcile_redated (hledger : reconcile chainTransfers transfersIn = .ok ledger)
    (hother : reconcile chainTransfers' transfersIn' = .ok other)
    (h : AreRedated (events chainTransfers transfersIn) (events chainTransfers' transfersIn')) :
    ledger.size = other.size ∧ ledger.dropped = other.dropped ∧
      ledger.summary = other.summary ∧
      ledger.entries.map Entry.undated = other.entries.map Entry.undated := by
  obtain ⟨ms, hread, rfl⟩ := reconcile_eq_ok_iff.1 hledger
  obtain ⟨ms', hread', rfl⟩ := reconcile_eq_ok_iff.1 hother
  have hagree := Ledger.agreeButDates_ofMovements (Ledger.map_undated_sort hread hread' h)
  exact ⟨hagree.size, hagree.dropped, hagree.summary, hagree.rows⟩

/-- The transfer-ins of the small account with other dates. -/
def redatedTransfersIn : List TransferIn :=
  [{ id := 2, requestedDate := "2031-07-01T12:00:00.5-03:00", tokenAmount := "0040" },
    { id := 1, requestedDate := "2000-01-01", tokenAmount := "100", txHash := some "0x01" }]

/-- The chain transfers of the small account with other dates: the one that is dropped lies in the
leap second before the earlier transfer-in, the others at the instants of the transfer-ins. -/
def redatedChainTransfers : List ChainTransfer :=
  [{ id := 1, blockchainDate := some "2031-07-01T15:00:00.500Z", tokenAmount := "40" },
    { id := 2, blockchainDate := some "1999-12-31T23:59:60.9Z", tokenAmount := "1000" },
    { id := 3, blockchainDate := some "20000101T053000+0530", tokenAmount := "30" }]

/-- The small account has the same rows when it is redated. -/
theorem sample_redated : ∃ ledger other,
    reconcile sampleChainTransfers sampleTransfersIn = .ok ledger ∧
      reconcile redatedChainTransfers redatedTransfersIn = .ok other ∧
      AreRedated (events sampleChainTransfers sampleTransfersIn)
        (events redatedChainTransfers redatedTransfersIn) ∧
      ledger.size = 4 ∧ ledger.summary = other.summary ∧
      ledger.entries.map Entry.undated = other.entries.map Entry.undated := by
  obtain ⟨ledger, hledger, hsize, -⟩ := reconcile_sample
  have hok : (reconcile redatedChainTransfers redatedTransfersIn).isOk := by decide +kernel
  obtain ⟨other, hother⟩ : ∃ other,
      reconcile redatedChainTransfers redatedTransfersIn = .ok other := by
    cases houtcome : reconcile redatedChainTransfers redatedTransfersIn with
    | error fault => rw [houtcome] at hok; cases hok
    | ok other => exact ⟨other, rfl⟩
  have hsame : ∀ p ∈ (events sampleChainTransfers sampleTransfersIn).zip
      (events redatedChainTransfers redatedTransfersIn),
      p.1.id = p.2.id ∧ Amount.read? p.1.amountText = Amount.read? p.2.amountText := by
    decide +kernel
  have hredated : AreRedated (events sampleChainTransfers sampleTransfersIn)
      (events redatedChainTransfers redatedTransfersIn) := by
    refine ⟨List.forall₂_iff_zip.2 ⟨rfl, fun hp ↦ ⟨(hsame _ hp).1, fun amount ↦ ?_⟩⟩,
      by decide +kernel⟩
    rw [← Amount.read?_eq_some_iff, ← Amount.read?_eq_some_iff, (hsame _ hp).2]
  obtain ⟨-, -, hsummary, hrows⟩ := reconcile_redated hledger hother hredated
  exact ⟨ledger, other, hledger, hother, hredated, hsize, hsummary, hrows⟩

end Reconciliation

end RunningBalance
