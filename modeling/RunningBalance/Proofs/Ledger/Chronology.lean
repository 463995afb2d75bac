import RunningBalance.Proofs.Ledger.Opening

/-!
# Which events a ledger shows, and in which order

An event is told from an equal one by its place: its kind and its position in the list of that kind.
Sorting puts places in the order of their instants, then of kinds, then of positions
(`exists_places`). `reconcile_chronology` is the main statement: the rows are the events at all
places of transfer-ins and at the places of chain transfers that are not earlier than the first
transfer-in, each place once and in that order; the chain transfers at the other places are counted
as dropped.
-/

set_option autoImplicit false
set_option relaxedAutoImplicit false

namespace RunningBalance

/-- Where an event is given: its kind, and its position in the list of that kind. -/
structure Place where
  source : Source
  position : ℕ
  deriving DecidableEq

namespace Place

/-- Transfer-ins stand before chain transfers, and events of one kind in the order given. -/
def Precedes (a b : Place) : Prop :=
  a.source = .transferIn ∧ b.source = .chainTransfer ∨
    a.source = b.source ∧ a.position < b.position

section Account

variable (chainTransfers : List ChainTransfer) (transfersIn : List TransferIn)

/-- The event that is given at a place. -/
def event? : Place → Option Event
  | ⟨.transferIn, position⟩ => transfersIn[position]?.map .transferIn
  | ⟨.chainTransfer, position⟩ => chainTransfers[position]?.map .chainTransfer

/-- The instant of the event at a place. -/
def instant? (place : Place) : Option Instant :=
  (place.event? chainTransfers transfersIn).bind Event.instant?

/-- The order of rows: by instant, then by kind, then by position. -/
def Earlier (a b : Place) : Prop :=
  ∃ s t, a.instant? chainTransfers transfersIn = some s ∧
    b.instant? chainTransfers transfersIn = some t ∧ (s < t ∨ s = t ∧ a.Precedes b)

/-- The places of all events, in the order of the events. -/
def all : List Place :=
  (List.range transfersIn.length).map (⟨.transferIn, ·⟩) ++
    (List.range chainTransfers.length).map (⟨.chainTransfer, ·⟩)

theorem pairwise_all : (all chainTransfers transfersIn).Pairwise Precedes := by
  rw [all, List.pairwise_append, List.pairwise_map, List.pairwise_map]
  refine ⟨?_, ?_, fun a ha b hb ↦ ?_⟩
  · exact List.pairwise_lt_range.imp fun h ↦ .inr ⟨rfl, h⟩
  · exact List.pairwise_lt_range.imp fun h ↦ .inr ⟨rfl, h⟩
  · obtain ⟨i, -, rfl⟩ := List.mem_map.1 ha
    obtain ⟨j, -, rfl⟩ := List.mem_map.1 hb
    exact .inl ⟨rfl, rfl⟩

theorem mem_all {place : Place} : place ∈ all chainTransfers transfersIn ↔
    ∃ event, place.event? chainTransfers transfersIn = some event := by
  obtain ⟨source, position⟩ := place
  cases source <;> simp [all, event?, ← Option.isSome_iff_exists]

/-- A list is what stands at its positions. -/
private theorem map_getElem?_range {α β : Type} (f : α → β) (xs : List α) :
    (List.range xs.length).map (fun i ↦ xs[i]?.map f) = xs.map fun x ↦ some (f x) := by
  refine List.ext_getElem (by simp) fun i _ hi ↦ ?_
  rw [List.length_map] at hi
  simp [hi]

theorem map_event?_all : (all chainTransfers transfersIn).map (event? chainTransfers transfersIn) =
    (events chainTransfers transfersIn).map some := by
  rw [all, events, List.map_append, List.map_append, List.map_map, List.map_map, List.map_map,
    List.map_map]
  exact congrArg₂ (· ++ ·) (map_getElem?_range _ _) (map_getElem?_range _ _)

theorem Earlier.irrefl {place : Place} : ¬Earlier chainTransfers transfersIn place place := by
  rintro ⟨s, t, hs, ht, h⟩
  rw [hs, Option.some.injEq] at ht
  subst ht
  rcases h with hlt | ⟨-, ⟨hin, hchain⟩ | ⟨-, hlt⟩⟩
  · exact lt_irrefl s hlt
  · rw [hin] at hchain
    cases hchain
  · exact lt_irrefl _ hlt

end Account

end Place

section Reconciliation

variable {chainTransfers : List ChainTransfer} {transfersIn : List TransferIn}

/-- Every movement can be paired with the place of its event, each place standing once. -/
theorem exists_placed {ms : List Movement}
    (hread : AreRead ms (events chainTransfers transfersIn)) :
    ∃ placed : List (Place × Movement),
      placed.map Prod.fst = Place.all chainTransfers transfersIn ∧ placed.map Prod.snd = ms ∧
        ∀ z ∈ placed, z.1.event? chainTransfers transfersIn = some z.2.origin := by
  have hmap : (Place.all chainTransfers transfersIn).map
      (Place.event? chainTransfers transfersIn) = ms.map fun m ↦ some m.origin := by
    rw [Place.map_event?_all, ← hread.origin, List.map_map]
    rfl
  have hlength := congrArg List.length hmap
  rw [List.length_map, List.length_map] at hlength
  have hfst := List.map_fst_zip hlength.le
  have hsnd := List.map_snd_zip hlength.ge
  refine ⟨(Place.all chainTransfers transfersIn).zip ms, hfst, hsnd, ?_⟩
  have hpairs : ((Place.all chainTransfers transfersIn).zip ms).map
        (Place.event? chainTransfers transfersIn ∘ Prod.fst) =
      ((Place.all chainTransfers transfersIn).zip ms).map
        ((fun m ↦ some m.origin) ∘ Prod.snd) := by
    rw [← List.map_map, ← List.map_map, hfst, hsnd, hmap]
  exact List.map_inj_left.1 hpairs

/-- The movements that pass a test of their instants, when sorted, are those at the places whose
instants pass it, in the order of places. -/
theorem exists_places {ms : List Movement}
    (hread : AreRead ms (events chainTransfers transfersIn)) (test : Instant → Bool) :
    ∃ places : List Place, places.Pairwise (Place.Earlier chainTransfers transfersIn) ∧
      (∀ place, place ∈ places ↔
        ∃ x, place.instant? chainTransfers transfersIn = some x ∧ test x) ∧
      places.map (Place.event? chainTransfers transfersIn) =
        ((Ledger.sort ms).filter fun m ↦ test m.date).map fun m ↦ some m.origin := by
  -- Movements are sorted together with their places, which tell equal ones apart.
  obtain ⟨placed, hfst, hsnd, hevent⟩ := exists_placed hread
  let sorted := StableSort.sortByKey (fun z : Place × Movement ↦ z.2.date) placed
  have hmem {z : Place × Movement} : z ∈ sorted ↔ z ∈ placed :=
    (StableSort.sortByKey_perm _ placed).mem_iff
  have hsort : sorted.map Prod.snd = Ledger.sort ms := by
    rw [Ledger.sort_eq_sortByKey, ← hsnd, ← StableSort.map_sortByKey]
  have hinstant (z : Place × Movement) (hz : z ∈ placed) :
      z.1.instant? chainTransfers transfersIn = some z.2.date := by
    have hm : z.2 ∈ ms := hsnd ▸ List.mem_map_of_mem hz
    rw [Place.instant?, hevent z hz, Option.bind_some, (hread.isRead _ hm).date]
  have horder : sorted.Pairwise fun a b ↦ a.2.date < b.2.date ∨
      a.2.date = b.2.date ∧ a.1.Precedes b.1 := by
    refine StableSort.pairwise_sortByKey _ ?_
    have hall := Place.pairwise_all chainTransfers transfersIn
    rwa [← hfst, List.pairwise_map] at hall
  refine ⟨(sorted.filter fun z ↦ test z.2.date).map Prod.fst, ?_, fun place ↦ ?_, ?_⟩
  · rw [List.pairwise_map]
    refine (horder.sublist List.filter_sublist).imp_of_mem fun {a b} ha hb h ↦ ?_
    have ha' := hmem.1 (List.mem_filter.1 ha).1
    have hb' := hmem.1 (List.mem_filter.1 hb).1
    exact ⟨a.2.date, b.2.date, hinstant a ha', hinstant b hb', h⟩
  · constructor
    · intro hplace
      obtain ⟨z, hz, rfl⟩ := List.mem_map.1 hplace
      obtain ⟨hz, htest⟩ := List.mem_filter.1 hz
      exact ⟨z.2.date, hinstant z (hmem.1 hz), htest⟩
    · rintro ⟨x, hx, htest⟩
      obtain ⟨event, hplace, -⟩ := Option.bind_eq_some_iff.1 hx
      have hplaced : place ∈ placed.map Prod.fst := by
        rw [hfst, Place.mem_all]
        exact ⟨event, hplace⟩
      obtain ⟨z, hz, rfl⟩ := List.mem_map.1 hplaced
      rw [hinstant z hz, Option.some.injEq] at hx
      exact List.mem_map_of_mem (List.mem_filter.2 ⟨hmem.2 hz, by rwa [hx]⟩)
  · rw [← hsort, List.filter_map, List.map_map, List.map_map]
    refine List.map_congr_left fun z hz ↦ ?_
    exact hevent z (hmem.1 (List.mem_filter.1 hz).1)

/-- The rows of an account are the events at the places that are not earlier than its opening. -/
structure IsChronology (chainTransfers : List ChainTransfer) (transfersIn : List TransferIn)
    (opening : Instant) (places : List Place) : Prop where
  ordered : places.Pairwise (Place.Earlier chainTransfers transfersIn)
  nodup : places.Nodup
  transferIn : ∀ i, ⟨.transferIn, i⟩ ∈ places ↔ i < transfersIn.length
  chainTransfer : ∀ i, ⟨.chainTransfer, i⟩ ∈ places ↔
    ∃ transfer x, chainTransfers[i]? = some transfer ∧
      (Event.chainTransfer transfer).instant? = some x ∧ opening ≤ x

/-- The places whose instants are not earlier than the opening are those of a chronology: every
transfer-in is among them. -/
theorem isChronology_of_mem_iff {ms : List Movement} {opening : Instant} {places : List Place}
    (hread : AreRead ms (events chainTransfers transfersIn))
    (hopening : IsOpening transfersIn opening)
    (hordered : places.Pairwise (Place.Earlier chainTransfers transfersIn))
    (hmem : ∀ place, place ∈ places ↔
      ∃ x, place.instant? chainTransfers transfersIn = some x ∧ opening ≤ x) :
    IsChronology chainTransfers transfersIn opening places where
  ordered := hordered
  nodup := hordered.imp fun h heq ↦ (heq ▸ h).irrefl
  transferIn i := by
    rw [hmem]
    constructor
    · rintro ⟨x, hx, -⟩
      obtain ⟨event, hevent, -⟩ := Option.bind_eq_some_iff.1 hx
      obtain ⟨transfer, htransfer, -⟩ := Option.map_eq_some_iff.1 hevent
      exact (List.getElem?_eq_some_iff.1 htransfer).1
    · intro hi
      have htransfer := transfersIn.getElem_mem hi
      obtain ⟨m, hm, horigin⟩ := hread.exists_of_mem (transferIn_mem_events.2 htransfer)
      have hinstant := (hread.isRead m hm).date
      rw [horigin] at hinstant
      refine ⟨m.date, ?_, hopening.2 ⟨_, htransfer, hinstant⟩⟩
      simpa [Place.instant?, Place.event?, hi] using hinstant
  chainTransfer i := by
    rw [hmem]
    constructor
    · rintro ⟨x, hx, hle⟩
      obtain ⟨event, hevent, hinstant⟩ := Option.bind_eq_some_iff.1 hx
      obtain ⟨transfer, htransfer, rfl⟩ := Option.map_eq_some_iff.1 hevent
      exact ⟨transfer, x, htransfer, hinstant, hle⟩
    · rintro ⟨transfer, x, htransfer, hinstant, hle⟩
      exact ⟨x, by simp [Place.instant?, Place.event?, htransfer, hinstant], hle⟩

variable {ledger : Ledger}

/-- An account without a transfer-in has no rows; otherwise its rows are the events at all places of
transfer-ins and at the places of chain transfers not earlier than the first transfer-in, each place
once, by instant, then by kind, then by position, and the other chain transfers are dropped. -/
theorem reconcile_chronology (h : reconcile chainTransfers transfersIn = .ok ledger) :
    (transfersIn = [] → ledger.entries = [] ∧ ledger.dropped = chainTransfers.length) ∧
      (transfersIn ≠ [] → ∃ opening, IsOpening transfersIn opening ∧
        (∃ places, IsChronology chainTransfers transfersIn opening places ∧
          ledger.chronological.map (fun entry ↦ some entry.origin) =
            places.map (Place.event? chainTransfers transfersIn)) ∧
        ledger.dropped = chainTransfers.countP fun transfer ↦
          (Event.chainTransfer transfer).instant?.any (· < opening)) ∧
      (∀ transfer ∈ transfersIn, ∃ entry ∈ ledger.entries, entry.origin = .transferIn transfer) ∧
      (ledger.isEmpty ↔ transfersIn = []) ∧
      ledger.size + ledger.dropped = chainTransfers.length + transfersIn.length := by
  obtain ⟨ms, hread, rfl⟩ := reconcile_eq_ok_iff.1 h
  have hlength : ms.length = chainTransfers.length + transfersIn.length := by
    have horigin := congrArg List.length hread.origin
    rw [List.length_map, events, List.length_append, List.length_map, List.length_map] at horigin
    rw [horigin, Nat.add_comm]
  have hsize := Ledger.size_add_dropped ms
  rw [hlength] at hsize
  refine ⟨fun hnil ↦ ?_, fun hne ↦ ?_, fun _ hmem ↦ Ledger.exists_row hread hmem, ⟨?_, ?_⟩, hsize⟩
  · have hentries := Ledger.entries_ofMovements_eq_nil hread hnil
    refine ⟨hentries, ?_⟩
    simpa [Ledger.size, hentries, hnil] using hsize
  · obtain ⟨opening, hopening⟩ := Ledger.exists_isOpening hread hne
    obtain ⟨places, hordered, hmem, hplaces⟩ := exists_places hread (opening ≤ ·)
    simp only [decide_eq_true_eq] at hmem
    refine ⟨opening, hopening, ⟨places, isChronology_of_mem_iff hread hopening hordered hmem, ?_⟩,
      Ledger.dropped_ofMovements hread hopening⟩
    rw [hplaces, ← Ledger.rows_ofMovements hread hopening, List.map_map]
    rfl
  · intro hempty
    by_contra hne
    obtain ⟨transfer, hmem⟩ := List.exists_mem_of_ne_nil transfersIn hne
    obtain ⟨entry, hentry, -⟩ := Ledger.exists_row hread hmem
    rw [List.isEmpty_iff.1 hempty] at hentry
    cases hentry
  · intro hnil
    exact List.isEmpty_iff.2 (Ledger.entries_ofMovements_eq_nil hread hnil)

/-- The small account has a chronology: its ledger is not empty, and one transfer is dropped. -/
theorem sample_chronology : ∃ ledger opening,
    reconcile sampleChainTransfers sampleTransfersIn = .ok ledger ∧
      IsOpening sampleTransfersIn opening ∧ ledger.dropped = 1 ∧
      ∃ places, IsChronology sampleChainTransfers sampleTransfersIn opening places ∧
        ledger.chronological.map (fun entry ↦ some entry.origin) =
          places.map (Place.event? sampleChainTransfers sampleTransfersIn) := by
  obtain ⟨ledger, hledger, -, hdropped, -⟩ := reconcile_sample
  obtain ⟨opening, hopening, hplaces, -⟩ := (reconcile_chronology hledger).2.1 (by decide)
  exact ⟨ledger, opening, hledger, hopening, hdropped, hplaces⟩

end Reconciliation

end RunningBalance
