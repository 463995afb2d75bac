import Mathlib
import RunningBalance.Ledger.Reconciliation
import RunningBalance.Proofs.Amount
import RunningBalance.Proofs.Attempts

/-!
# What events denote

Both kinds of events have a text for their amount, and both may have one for their date. A movement
is read off its event when it has the instant and the signed amount that these texts denote
(`Movement.IsRead`); `Event.movement_eq_ok_iff` says that an event makes exactly the movement read
off it, and `Event.movement_eq_error_iff` what is at fault with it otherwise.

The events of an account are its transfer-ins and then its chain transfers (`events`). A ledger is
made exactly when all of them can be read, and then of their movements (`reconcile_eq_ok_iff`);
otherwise the first event with a fault decides (`reconcile_eq_error_iff`).
-/

set_option autoImplicit false
set_option relaxedAutoImplicit false

namespace RunningBalance

/-! ### One event -/

namespace Event

def dateText : Event → Option String
  | .chainTransfer transfer => transfer.blockchainDate
  | .transferIn transfer => some transfer.requestedDate

def amountText : Event → String
  | .chainTransfer transfer => transfer.tokenAmount
  | .transferIn transfer => transfer.tokenAmount

/-- The instant that the text of the date denotes. -/
def instant? (event : Event) : Option Instant :=
  event.dateText.bind Timestamp.read?

/-- The change that an event of an amount makes: a chain transfer is a credit, a transfer-in a
debit. -/
def signed (event : Event) (amount : ℕ) : ℤ :=
  match event with
  | .chainTransfer _ => amount
  | .transferIn _ => -amount

/-- The movement that an event of either kind makes. -/
def movement : Event → Except Ledger.Fault Movement
  | .chainTransfer transfer => transfer.movement
  | .transferIn transfer => transfer.movement

/-- What can be at fault with an event, with the fault that it is reported as. The date comes before
the amount. -/
inductive AtFault (event : Event) : Ledger.Fault → Prop
  | undated (hdate : event.dateText = none) : AtFault event (.missingDate event.id)
  | misdated {text : String} (hdate : event.dateText = some text)
      (hread : Timestamp.read? text = none) : AtFault event (.invalidDate event.id text)
  | amount (hdate : event.instant? ≠ none) (hamount : ¬Amount.IsNumeral event.amountText) :
      AtFault event (.invalidAmount event.id event.amountText)

/-- Reading an event reads its date and then its amount. -/
theorem movement_eq (event : Event) :
    event.movement =
      match event.dateText with
      | none => .error (.missingDate event.id)
      | some text =>
        (do
          let date ← readDate event.id text
          let amount ← readAmount event.id event.amountText
          pure { date, delta := event.signed amount, origin := event }) := by
  cases event with
  | transferIn transfer => rfl
  | chainTransfer transfer =>
    simp only [movement, ChainTransfer.movement, dateText]
    cases transfer.blockchainDate with
    | none => rfl
    | some text => rfl

end Event

/-- A movement has the instant and the signed amount that the texts of its event denote. -/
structure Movement.IsRead (movement : Movement) : Prop where
  date : movement.origin.instant? = some movement.date
  delta : ∃ amount, Amount.Denotes movement.origin.amountText amount ∧
    movement.delta = movement.origin.signed amount

/-- Movements are read off events, one off each and in their order. -/
structure AreRead (ms : List Movement) (given : List Event) : Prop where
  origin : ms.map Movement.origin = given
  isRead : ∀ m ∈ ms, m.IsRead

theorem areRead_iff {ms : List Movement} {given : List Event} :
    AreRead ms given ↔ ms.map Movement.origin = given ∧ ∀ m ∈ ms, m.IsRead :=
  ⟨fun h ↦ ⟨h.origin, h.isRead⟩, fun h ↦ ⟨h.1, h.2⟩⟩

theorem AreRead.origin_mem {ms : List Movement} {given : List Event} (hread : AreRead ms given)
    {m : Movement} (hm : m ∈ ms) : m.origin ∈ given := by
  rw [← hread.origin]
  exact List.mem_map_of_mem hm

theorem AreRead.exists_of_mem {ms : List Movement} {given : List Event} (hread : AreRead ms given)
    {event : Event} (hmem : event ∈ given) : ∃ m ∈ ms, m.origin = event := by
  rw [← hread.origin] at hmem
  exact List.mem_map.1 hmem

theorem Movement.IsRead.areRead {m : Movement} (hm : m.IsRead) : AreRead [m] [m.origin] where
  origin := rfl
  isRead := List.forall_mem_singleton.2 hm

theorem AreRead.append {ms ms' : List Movement} {given given' : List Event}
    (hread : AreRead ms given) (hread' : AreRead ms' given') :
    AreRead (ms ++ ms') (given ++ given') where
  origin := by rw [List.map_append, hread.origin, hread'.origin]
  isRead m hm := (List.mem_append.1 hm).elim (hread.isRead m) (hread'.isRead m)

theorem AreRead.exists_append {ms : List Movement} {given given' : List Event}
    (hread : AreRead ms (given ++ given')) :
    ∃ earlier later, ms = earlier ++ later ∧ AreRead earlier given ∧ AreRead later given' := by
  obtain ⟨earlier, later, rfl, hearlier, hlater⟩ := List.map_eq_append_iff.1 hread.origin
  exact ⟨earlier, later, rfl, ⟨hearlier, fun m hm ↦ hread.isRead m (List.mem_append_left _ hm)⟩,
    ⟨hlater, fun m hm ↦ hread.isRead m (List.mem_append_right _ hm)⟩⟩

/-- The movements whose instants pass a test are those read off the events whose instants pass
it. -/
theorem AreRead.filter {ms : List Movement} {given : List Event} (hread : AreRead ms given)
    (test : Instant → Bool) :
    AreRead (ms.filter fun m ↦ test m.date)
      (given.filter fun event ↦ event.instant?.any test) where
  origin := by
    rw [← hread.origin, List.filter_map]
    refine congrArg (List.map Movement.origin) (List.filter_congr fun m hm ↦ ?_)
    simp [(hread.isRead m hm).date]
  isRead m hm := hread.isRead m (List.mem_filter.1 hm).1

namespace Event

/-- An event makes exactly the movement that is read off it. -/
theorem movement_eq_ok_iff {event : Event} {movement : Movement} :
    event.movement = .ok movement ↔ movement.origin = event ∧ movement.IsRead := by
  rw [movement_eq]
  constructor
  · intro h
    cases hdate : event.dateText with
    | none => simp [hdate] at h
    | some text =>
      cases hread : Timestamp.read? text with
      | none => simp [hdate, readDate, hread, bind, Except.bind] at h
      | some date =>
        cases hamount : Amount.read? event.amountText with
        | none => simp [hdate, readDate, hread, readAmount, hamount, bind, Except.bind] at h
        | some amount =>
          simp only [hdate, readDate, hread, readAmount, hamount, bind, Except.bind, pure,
            Except.pure, Except.ok.injEq] at h
          subst h
          refine ⟨rfl, ?_, amount, Amount.read?_eq_some_iff.1 hamount, rfl⟩
          rw [instant?, hdate, Option.bind_some, hread]
  · rintro ⟨rfl, hinstant, amount, hamount, hdelta⟩
    obtain ⟨text, hdate, hread⟩ := Option.bind_eq_some_iff.1 hinstant
    rw [← Amount.read?_eq_some_iff] at hamount
    simp only [hdate, readDate, hread, readAmount, hamount, bind, Except.bind, pure, Except.pure,
      ← hdelta]

/-- An event makes no movement exactly when something is at fault with it. -/
theorem movement_eq_error_iff {event : Event} {fault : Ledger.Fault} :
    event.movement = .error fault ↔ event.AtFault fault := by
  rw [movement_eq]
  constructor
  · intro h
    cases hdate : event.dateText with
    | none =>
      simp only [hdate, Except.error.injEq] at h
      exact h ▸ .undated hdate
    | some text =>
      cases hread : Timestamp.read? text with
      | none =>
        simp only [hdate, readDate, hread, bind, Except.bind, Except.error.injEq] at h
        exact h ▸ .misdated hdate hread
      | some date =>
        have hinstant : event.instant? ≠ none := by
          simp [instant?, hdate, hread]
        cases hamount : Amount.read? event.amountText with
        | none =>
          simp only [hdate, readDate, hread, readAmount, hamount, bind, Except.bind,
            Except.error.injEq] at h
          exact h ▸ .amount hinstant (Amount.read?_eq_none_iff.1 hamount)
        | some amount =>
          simp [hdate, readDate, hread, readAmount, hamount, bind, Except.bind, pure,
            Except.pure] at h
  · intro h
    cases h with
    | undated hdate => simp only [hdate]
    | misdated hdate hread => simp only [hdate, readDate, hread, bind, Except.bind]
    | amount hinstant hamount =>
      obtain ⟨date, hsome⟩ := Option.ne_none_iff_exists'.1 hinstant
      obtain ⟨text, hdate, hread⟩ := Option.bind_eq_some_iff.1 hsome
      rw [← Amount.read?_eq_none_iff] at hamount
      simp only [hdate, readDate, hread, readAmount, hamount, bind, Except.bind]

/-- An event makes a movement exactly when nothing is at fault with it. -/
theorem exists_movement_iff {event : Event} :
    (∃ movement, event.movement = .ok movement) ↔ ∀ fault, ¬event.AtFault fault := by
  simp only [← movement_eq_error_iff]
  cases event.movement with
  | error fault => simp
  | ok movement => simp

end Event

/-! ### All events of an account -/

/-- The events of an account, the transfer-ins first and each kind in the order given. -/
def events (chainTransfers : List ChainTransfer) (transfersIn : List TransferIn) : List Event :=
  transfersIn.map .transferIn ++ chainTransfers.map .chainTransfer

section Events

variable {chainTransfers : List ChainTransfer} {transfersIn : List TransferIn}

theorem transferIn_mem_events {transfer : TransferIn} :
    .transferIn transfer ∈ events chainTransfers transfersIn ↔ transfer ∈ transfersIn := by
  simp [events]

theorem filter_events (test : Event → Bool) :
    (events chainTransfers transfersIn).filter test =
      events (chainTransfers.filter fun transfer ↦ test (.chainTransfer transfer))
        (transfersIn.filter fun transfer ↦ test (.transferIn transfer)) := by
  rw [events, List.filter_append, List.filter_map, List.filter_map]
  rfl

/-- As many movements as events are read. -/
theorem AreRead.length {ms : List Movement}
    (hread : AreRead ms (events chainTransfers transfersIn)) :
    ms.length = chainTransfers.length + transfersIn.length := by
  have horigin := congrArg List.length hread.origin
  rw [List.length_map, events, List.length_append, List.length_map, List.length_map] at horigin
  rw [horigin, Nat.add_comm]

theorem movements_eq : movements chainTransfers transfersIn =
    (events chainTransfers transfersIn).mapM Event.movement := by
  rw [movements, events, List.mapM_append, List.mapM_map, List.mapM_map]
  rfl

/-- The movements of an account are those read off its events, in their order. -/
theorem movements_eq_ok_iff {ms : List Movement} :
    movements chainTransfers transfersIn = .ok ms ↔
      AreRead ms (events chainTransfers transfersIn) := by
  rw [movements_eq, Attempts.mapM_eq_ok_iff]
  simp only [Event.movement_eq_ok_iff]
  induction events chainTransfers transfersIn generalizing ms with
  | nil => cases ms <;> simp [areRead_iff]
  | cons event later ih =>
    cases ms with
    | nil => simp [areRead_iff]
    | cons m ms =>
      rw [List.forall₂_cons, ih, areRead_iff, areRead_iff, List.map_cons, List.cons.injEq,
        List.forall_mem_cons]
      tauto

/-- A ledger is made exactly when all events can be read, and then of their movements. -/
theorem reconcile_eq_ok_iff {ledger : Ledger} :
    reconcile chainTransfers transfersIn = .ok ledger ↔
      ∃ ms, AreRead ms (events chainTransfers transfersIn) ∧ Ledger.ofMovements ms = ledger := by
  simp only [← movements_eq_ok_iff]
  rw [reconcile]
  cases movements chainTransfers transfersIn with
  | error fault => simp [Except.map]
  | ok ms => simp [Except.map]

/-- No ledger is made exactly when some event is at fault, and then the first such event decides
why. -/
theorem reconcile_eq_error_iff {fault : Ledger.Fault} :
    reconcile chainTransfers transfersIn = .error fault ↔
      ∃ before event after, events chainTransfers transfersIn = before ++ event :: after ∧
        (∀ earlier ∈ before, ∀ other, ¬earlier.AtFault other) ∧ event.AtFault fault := by
  have hmovements : reconcile chainTransfers transfersIn = .error fault ↔
      movements chainTransfers transfersIn = .error fault := by
    rw [reconcile]
    cases movements chainTransfers transfersIn with
    | error other => simp [Except.map]
    | ok ms => simp [Except.map]
  rw [hmovements, movements_eq, Attempts.mapM_eq_error_iff]
  simp only [Event.exists_movement_iff, Event.movement_eq_error_iff]

end Events

/-! ### A small account -/

/-- Two transfer-ins, the later one first. -/
def sampleTransfersIn : List TransferIn :=
  [{ id := 2, requestedDate := "2024-01-03T00:00:00Z", tokenAmount := "40" },
    { id := 1, requestedDate := "2024-01-02T01:00:00+01:00", tokenAmount := "100" }]

/-- Chain transfers at the instant of the later transfer-in, before both, and at the instant of the
earlier one. -/
def sampleChainTransfers : List ChainTransfer :=
  [{ id := 1, blockchainDate := some "2024-01-03T00:00Z", tokenAmount := "0040" },
    { id := 2, blockchainDate := some "2024-01-01", tokenAmount := "1000" },
    { id := 3, blockchainDate := some "20240102T000000Z", tokenAmount := "30" }]

/-- The ledger of the small account has four rows, and one chain transfer is dropped. -/
theorem reconcile_sample : ∃ ledger,
    reconcile sampleChainTransfers sampleTransfersIn = .ok ledger ∧ ledger.size = 4 ∧
      ledger.dropped = 1 ∧ ledger.chronological.map Entry.balance = [-100, -70, -110, -70] := by
  refine ⟨_, by cbv, ?_⟩
  cbv

end RunningBalance
