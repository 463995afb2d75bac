import RunningBalance.Proofs.Ledger.Chronology
import RunningBalance.Proofs.Ledger.Document

/-!
# Names of rows

A row shows the name of its event, which is the kind and the number of the event and nothing else
(`EventId.write_inj`). Numbers are unique within a kind at best: both kinds may use the same number,
and numbers may be negative. `names_unique` says what follows where they are unique within each
kind. Sorting, dropping and reversing leave every event at most once among the rows, so no two rows
show the same name (`Ledger.nodup_ids`); and a fault names the event at one place only.
-/

set_option autoImplicit false
set_option relaxedAutoImplicit false

namespace RunningBalance

/-! ### Names -/

theorem EventId.write_inj {id id' : EventId} : id.write = id'.write ↔ id = id' := by
  refine ⟨fun h ↦ ?_, congrArg EventId.write⟩
  have hread := read?_write id
  rw [h, read?_write] at hread
  exact (Option.some.inj hread).symm

/-- The name of an event is its kind and its number. -/
theorem Event.write_id_eq_iff {event other : Event} :
    event.id.write = other.id.write ↔
      event.source = other.source ∧ event.number = other.number := by
  rw [EventId.write_inj, id, id, EventId.mk.injEq]

/-- A fault of an event names it. -/
theorem Event.AtFault.event?_eq {event : Event} {fault : Ledger.Fault}
    (h : event.AtFault fault) : fault.event? = some event.id := by
  cases h <;> rfl

section Account

variable {chainTransfers : List ChainTransfer} {transfersIn : List TransferIn}

/-- Events are named differently if their numbers differ within each kind. -/
theorem nodup_ids_events (hchain : (chainTransfers.map ChainTransfer.id).Nodup)
    (hin : (transfersIn.map TransferIn.id).Nodup) :
    ((events chainTransfers transfersIn).map Event.id).Nodup := by
  have hnames (source : Source) : Function.Injective (EventId.mk source) :=
    fun _ _ h ↦ (EventId.mk.inj h).2
  have hids : (events chainTransfers transfersIn).map Event.id =
      (transfersIn.map TransferIn.id).map (EventId.mk .transferIn) ++
        (chainTransfers.map ChainTransfer.id).map (EventId.mk .chainTransfer) := by
    simp only [events, List.map_append, List.map_map]
    rfl
  rw [hids, List.nodup_append']
  refine ⟨hin.map (hnames _), hchain.map (hnames _), fun id hin hchain ↦ ?_⟩
  obtain ⟨_, -, rfl⟩ := List.mem_map.1 hin
  obtain ⟨_, -, h⟩ := List.mem_map.1 hchain
  cases h

/-- The rows of a ledger are named differently if the events are. -/
theorem Ledger.nodup_ids {ledger : Ledger} (h : reconcile chainTransfers transfersIn = .ok ledger)
    (hevents : ((events chainTransfers transfersIn).map Event.id).Nodup) :
    (ledger.entries.map Entry.id).Nodup := by
  obtain ⟨ms, hread, rfl⟩ := reconcile_eq_ok_iff.1 h
  have hsorted : ((sort ms).map fun m ↦ m.origin.id).Nodup := by
    rw [← hread.origin, List.map_map] at hevents
    exact ((List.mergeSort_perm ms _).map _).nodup_iff.2 hevents
  have hrows : (ofMovements ms).chronological.map Entry.id =
      ((sort ms).dropWhile isCredit).map fun m ↦ m.origin.id := by
    rw [← accumulate_movement 0 ((sort ms).dropWhile isCredit), ← chronological_ofMovements,
      List.map_map]
    exact List.map_congr_left fun entry hentry ↦
      isNamed_ofMovements ms entry (List.mem_reverse.1 hentry)
  have hnodup := hsorted.sublist ((List.dropWhile_sublist isCredit).map _)
  rwa [← hrows, chronological, List.map_reverse, List.nodup_reverse] at hnodup

/-! ### Places -/

/-- A name belongs to the event at one place only if the events are named differently. -/
theorem Place.eq_of_write_id (hevents : ((events chainTransfers transfersIn).map Event.id).Nodup)
    {place other : Place} {event event' : Event}
    (h : place.event? chainTransfers transfersIn = some event)
    (h' : other.event? chainTransfers transfersIn = some event')
    (hname : event.id.write = event'.id.write) : place = other := by
  have hids : (all chainTransfers transfersIn).map
        (fun place ↦ (place.event? chainTransfers transfersIn).map Event.id) =
      ((events chainTransfers transfersIn).map Event.id).map some :=
    calc
      _ = ((all chainTransfers transfersIn).map
            (event? chainTransfers transfersIn)).map (Option.map Event.id) :=
          List.map_map.symm
      _ = ((events chainTransfers transfersIn).map Event.id).map some := by
          rw [map_event?_all, List.map_map, List.map_map]
          rfl
  have hnodup := hids ▸ hevents.map (Option.some_injective _)
  refine List.inj_on_of_nodup_map hnodup ((mem_all _ _).2 ⟨event, h⟩)
    ((mem_all _ _).2 ⟨event', h'⟩) ?_
  rw [h, h', Option.map_some, Option.map_some, EventId.write_inj.1 hname]

/-- Every event is given at some place. -/
theorem Place.exists_event? {event : Event} (hmem : event ∈ events chainTransfers transfersIn) :
    ∃ place : Place, place.event? chainTransfers transfersIn = some event := by
  have hsome : some event ∈ (events chainTransfers transfersIn).map some :=
    List.mem_map_of_mem hmem
  rw [← map_event?_all] at hsome
  obtain ⟨place, -, hevent⟩ := List.mem_map.1 hsome
  exact ⟨place, hevent⟩

end Account

/-! ### All names of an account -/

/-- Two events have the same name exactly if they are of one kind and have one number, and so have
two rows, of whichever ledgers, if their events are and do. Where numbers are unique within each
kind, no two rows of a ledger show the same name; and if there is no ledger, the fault names the
event at fault, and the events at all other places have other names. -/
theorem names_unique (chainTransfers : List ChainTransfer) (transfersIn : List TransferIn) :
    (∀ event other : Event, event.id.write = other.id.write ↔
        event.source = other.source ∧ event.number = other.number) ∧
      (∀ chainTransfers' transfersIn' ledger ledger',
        reconcile chainTransfers transfersIn = .ok ledger →
          reconcile chainTransfers' transfersIn' = .ok ledger' →
            ∀ entry ∈ ledger.entries, ∀ other ∈ ledger'.entries, entry.id.write = other.id.write ↔
              entry.origin.source = other.origin.source ∧
                entry.origin.number = other.origin.number) ∧
      ((chainTransfers.map ChainTransfer.id).Nodup → (transfersIn.map TransferIn.id).Nodup →
        (∀ ledger, reconcile chainTransfers transfersIn = .ok ledger →
          (ledger.entries.map fun entry ↦ entry.id.write).Nodup) ∧
        ∀ fault, reconcile chainTransfers transfersIn = .error fault →
          ∃ (place : Place) (event : Event), place.event? chainTransfers transfersIn = some event ∧
            event.AtFault fault ∧ fault.event? = some event.id ∧
            ∀ (other : Place) (event' : Event),
              other.event? chainTransfers transfersIn = some event' →
                event'.id.write = event.id.write → other = place) := by
  refine ⟨fun _ _ ↦ Event.write_id_eq_iff, ?_, fun hchain hin ↦ ?_⟩
  · intro chainTransfers' transfersIn' ledger ledger' hledger hledger' entry hentry other hother
    rw [isNamed_of_reconcile hledger entry hentry, isNamed_of_reconcile hledger' other hother,
      Event.write_id_eq_iff]
  have hevents := nodup_ids_events hchain hin
  refine ⟨fun ledger hledger ↦ ?_, fun fault hfault ↦ ?_⟩
  · have hids := Ledger.nodup_ids hledger hevents
    have hnames := hids.map (f := EventId.write) fun _ _ h ↦ EventId.write_inj.1 h
    rwa [List.map_map] at hnames
  · obtain ⟨before, event, after, hsplit, -, hevent⟩ := reconcile_eq_error_iff.1 hfault
    have hmem : event ∈ events chainTransfers transfersIn := by
      rw [hsplit]
      exact List.mem_append_right _ List.mem_cons_self
    obtain ⟨place, hplace⟩ := Place.exists_event? hmem
    exact ⟨place, event, hplace, hevent, hevent.event?_eq, fun other event' hother hname ↦
      Place.eq_of_write_id hevents hother hplace hname⟩

/-- The transfer-ins of the small account and one of a negative number whose amount is none. -/
def faultyTransfersIn : List TransferIn :=
  sampleTransfersIn ++ [{ id := -3, requestedDate := "2024-01-04", tokenAmount := "1.5" }]

/-- Both kinds of the small account use the numbers 1 and 2, and its four rows show four names. With
the faulty transfer-in there is no ledger, and only this event has the name in the fault. -/
theorem sample_names :
    (∃ ledger, reconcile sampleChainTransfers sampleTransfersIn = .ok ledger ∧ ledger.size = 4 ∧
      (ledger.entries.map fun entry ↦ entry.id.write).Nodup) ∧
    ∃ fault, reconcile sampleChainTransfers faultyTransfersIn = .error fault ∧
      fault.event?.map EventId.write = some "transfer_in_-3" ∧
      ∃ place : Place, ∀ (other : Place) (event : Event),
        other.event? sampleChainTransfers faultyTransfersIn = some event →
          event.id.write = "transfer_in_-3" → other = place := by
  have hchain : (sampleChainTransfers.map ChainTransfer.id).Nodup := by decide
  obtain ⟨ledger, hledger, hsize, -⟩ := reconcile_sample
  have hrows := ((names_unique _ _).2.2 hchain (by decide)).1 ledger hledger
  have hfault : reconcile sampleChainTransfers faultyTransfersIn =
      .error (.invalidAmount { source := .transferIn, number := -3 } "1.5") := by
    cbv
  obtain ⟨place, event, -, -, hnamed, honly⟩ :=
    ((names_unique _ faultyTransfersIn).2.2 hchain (by decide)).2 _ hfault
  have hname : event.id.write = "transfer_in_-3" := by
    rw [← Option.some.inj hnamed]
    decide
  refine ⟨⟨ledger, hledger, hsize, hrows⟩, _, hfault, by decide, place, ?_⟩
  rwa [hname] at honly

end RunningBalance
