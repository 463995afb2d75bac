import Mathlib.Tactic.MkIffOfInductiveProp
import RunningBalance.Proofs.Json.Alike
import RunningBalance.Transfer.Decoder
import RunningBalance.Transfer.Encoder

/-!
# What transfers are read from

A tree spells a transfer if it gives the fields of the transfer the values that these have, by their
keys or by their places (`TransferIn.IsSpelled`, `ChainTransfer.IsSpelled`). A transfer is read from
exactly the trees that spell it (`TransferIn.ofDraft_eq_ok_iff`, `ChainTransfer.ofDraft_eq_ok_iff`),
and what is written for a transfer spells it (`TransferIn.ofDraft_json`,
`ChainTransfer.ofDraft_json`).
-/

set_option autoImplicit false
set_option relaxedAutoImplicit false

namespace RunningBalance

open Json (Column Draft Fault MayHold)

/-! ### Cells -/

namespace Transfer

/-- A reader of cells accepts what is written for the values of a type, and nothing else. -/
structure Reads {β : Type} (read : Draft → Except Fault Cell) (written : β → Json)
    (cellOf : β → Cell) : Prop where
  read_eq_ok_iff (json : Json) (cell : Cell) :
    read json.draft = .ok cell ↔ ∃ value, json = written value ∧ cellOf value = cell
  written_ne_null (value : β) : written value ≠ .null

/-- The number of 64 bits as a tree. -/
def integerJson (number : Int64) : Json :=
  .integer number.toInt

theorem reads_integer : Reads readInteger integerJson .integer where
  read_eq_ok_iff json cell := by
    cases json with
    | integer value =>
      simp only [Json.draft, readInteger, integerJson, Json.integer.injEq]
      split
      · next hrange =>
        rw [Int64.toInt_minValue, Int64.toInt_maxValue] at hrange
        have hvalue : (Int64.ofInt value).toInt = value :=
          Int64.toInt_ofInt_of_le hrange.1 (Int.lt_of_le_sub_one hrange.2)
        rw [Except.ok.injEq]
        constructor
        · rintro rfl
          exact ⟨_, hvalue.symm, rfl⟩
        · rintro ⟨number, rfl, rfl⟩
          rw [Int64.ofInt_toInt]
      · next hrange =>
        refine iff_of_false (by simp) ?_
        rintro ⟨number, rfl, -⟩
        exact hrange ⟨number.minValue_le_toInt, number.toInt_le⟩
    | _ => simp [Json.draft, readInteger, integerJson]
  written_ne_null _ := Json.noConfusion

theorem reads_text : Reads readText .string .text where
  read_eq_ok_iff json cell := by
    cases json <;> simp [Json.draft, readText, Json.readString, Functor.map, Except.map]
  written_ne_null _ := Json.noConfusion

section Columns

variable {β : Type} {read : Draft → Except Fault Cell} {written : β → Json} {cellOf : β → Cell}
  {name : String} {tree : Json} {values : List Json} {cell : Cell}

theorem missing_required : (required name read).missing tree = none := by
  cases tree <;> rfl

theorem missing_optional : (optional name read).missing tree = some .nothing := by
  cases tree <;> rfl

/-- A required field has one value. -/
theorem Reads.takes_required_iff (hreads : Reads read written cellOf) :
    (required name read).Takes none values cell ↔
      ∃ value, values = [written value] ∧ cellOf value = cell := by
  constructor
  · intro h
    cases h with
    | absent hcell => cases hcell
    | value hread =>
      obtain ⟨value, rfl, hvalue⟩ := (hreads.read_eq_ok_iff _ _).1 hread
      exact ⟨value, rfl, hvalue⟩
  · rintro ⟨value, rfl, hvalue⟩
    exact .value ((hreads.read_eq_ok_iff _ _).2 ⟨value, rfl, hvalue⟩)

/-- An optional field has one value, or it has none and is absent or null. -/
theorem Reads.takes_optional_iff (hreads : Reads read written cellOf) (name : String) :
    (optional name read).Takes (some .nothing) values cell ↔
      ∃ value : Option β,
        MayHold values (value.map written) ∧ value.elim .nothing cellOf = cell := by
  have hread (json : Json) : (optional name read).read json.draft = .ok cell ↔
      json = .null ∧ cell = .nothing ∨ json ≠ .null ∧ read json.draft = .ok cell := by
    cases json <;> simp [optional, orNothing, Json.draft, eq_comm]
  constructor
  · intro h
    cases h with
    | absent hcell => exact ⟨none, .inl rfl, Option.some.inj hcell⟩
    | value hvalue =>
      rcases (hread _).1 hvalue with ⟨rfl, rfl⟩ | ⟨-, hvalue⟩
      · exact ⟨none, .inr ⟨rfl, rfl⟩, rfl⟩
      · obtain ⟨value, rfl, hcell⟩ := (hreads.read_eq_ok_iff _ _).1 hvalue
        exact ⟨some value, .inl rfl, hcell⟩
  · rintro ⟨value | value, hvalues, rfl⟩
    · rcases hvalues with rfl | ⟨-, rfl⟩
      · exact .absent rfl
      · exact .value ((hread _).2 (.inl ⟨rfl, rfl⟩))
    · rcases hvalues with rfl | ⟨hnone, -⟩
      · exact .value ((hread _).2 (.inr
          ⟨hreads.written_ne_null value, (hreads.read_eq_ok_iff _ _).2 ⟨value, rfl, rfl⟩⟩))
      · cases hnone

/-- The first cell is filled, and then the others are. -/
theorem forall₂_cons_iff_exists {α : Type} {r : α → Cell → Prop} {x : α} {xs : List α}
    {cells : List Cell} : List.Forall₂ r (x :: xs) cells ↔
      ∃ first, r x first ∧ ∃ later, first :: later = cells ∧ List.Forall₂ r xs later := by
  rw [List.forall₂_cons_left_iff]
  simp only [exists_and_left, eq_comm, and_comm (a := List.Forall₂ _ _ _)]

@[simp] theorem text?_elim (value : Option String) :
    (value.elim Cell.nothing .text).text? = value := by
  cases value <;> rfl

@[simp] theorem integer?_elim (value : Option Int64) :
    (value.elim Cell.nothing .integer).integer? = value := by
  cases value <;> rfl

@[simp] theorem elim_text_inj {value value' : Option String} :
    value.elim Cell.nothing .text = value'.elim Cell.nothing .text ↔ value = value' := by
  cases value <;> cases value' <;> simp

@[simp] theorem elim_integer_inj {value value' : Option Int64} :
    value.elim Cell.nothing .integer = value'.elim Cell.nothing .integer ↔ value = value' := by
  cases value <;> cases value' <;> simp

end Columns

section Members

variable {key name : String}

@[simp] theorem under_textMember_self (value : Option String) :
    Json.under key (textMember key value) = (value.map .string).toList := by
  cases value <;> simp [Json.under, textMember]

@[simp] theorem under_textMember_of_ne (value : Option String) (h : key ≠ name) :
    Json.under key (textMember name value) = [] := by
  cases value <;> simp [Json.under, textMember, h.symm]

@[simp] theorem under_integerMember_self (value : Option Int64) :
    Json.under key (integerMember key value) = (value.map integerJson).toList := by
  cases value <;> simp [Json.under, integerMember, integerJson]

@[simp] theorem under_integerMember_of_ne (value : Option Int64) (h : key ≠ name) :
    Json.under key (integerMember name value) = [] := by
  cases value <;> simp [Json.under, integerMember, h.symm]

end Members

end Transfer

open Transfer

/-! ### Transfer-ins -/

namespace TransferIn

/-- The fields in the order of their places. -/
def fields : List String :=
  ["id", "requestedDate", "tokenAmount", "paymentId", "fromAddr", "receiverAddr", "chainId",
    "tokenAddr", "txHash", "receivedDate"]

/-- A tree spells a transfer-in: its number, date and amount have one value each, and any other
field has its value or none. -/
@[mk_iff]
structure IsSpelled (tree : Json) (transfer : TransferIn) : Prop where
  isRecord : tree.IsRecord 3 10
  id : tree.valuesOf 0 "id" = [integerJson transfer.id]
  requestedDate : tree.valuesOf 1 "requestedDate" = [.string transfer.requestedDate]
  tokenAmount : tree.valuesOf 2 "tokenAmount" = [.string transfer.tokenAmount]
  paymentId : MayHold (tree.valuesOf 3 "paymentId") (transfer.paymentId.map .string)
  fromAddr : MayHold (tree.valuesOf 4 "fromAddr") (transfer.fromAddr.map .string)
  receiverAddr : MayHold (tree.valuesOf 5 "receiverAddr") (transfer.receiverAddr.map .string)
  chainId : MayHold (tree.valuesOf 6 "chainId") (transfer.chainId.map integerJson)
  tokenAddr : MayHold (tree.valuesOf 7 "tokenAddr") (transfer.tokenAddr.map .string)
  txHash : MayHold (tree.valuesOf 8 "txHash") (transfer.txHash.map .string)
  receivedDate : MayHold (tree.valuesOf 9 "receivedDate") (transfer.receivedDate.map .string)

/-- The cells of a transfer-in. -/
def cells (transfer : TransferIn) : List Cell :=
  [.integer transfer.id, .text transfer.requestedDate, .text transfer.tokenAmount,
    transfer.paymentId.elim .nothing .text, transfer.fromAddr.elim .nothing .text,
    transfer.receiverAddr.elim .nothing .text, transfer.chainId.elim .nothing .integer,
    transfer.tokenAddr.elim .nothing .text, transfer.txHash.elim .nothing .text,
    transfer.receivedDate.elim .nothing .text]

theorem ofCells_cells (transfer : TransferIn) : ofCells transfer.cells = .ok transfer := by
  simp [cells, ofCells]

/-- Cells that a tree fills are those of a transfer-in. -/
theorem exists_cells {tree : Json} {cells : List Cell} (h : Json.Fills columns tree cells) :
    ∃ transfer : TransferIn, transfer.cells = cells := by
  simp only [Json.Fills, columns, List.zipIdx_cons, List.zipIdx_nil, forall₂_cons_iff_exists,
    List.forall₂_nil_left_iff, missing_required, missing_optional,
    reads_integer.takes_required_iff, reads_text.takes_required_iff,
    reads_integer.takes_optional_iff, reads_text.takes_optional_iff] at h
  obtain ⟨_, ⟨id, -, rfl⟩, _, rfl, _, ⟨requestedDate, -, rfl⟩, _, rfl,
    _, ⟨tokenAmount, -, rfl⟩, _, rfl, _, ⟨paymentId, -, rfl⟩, _, rfl,
    _, ⟨fromAddr, -, rfl⟩, _, rfl, _, ⟨receiverAddr, -, rfl⟩, _, rfl,
    _, ⟨chainId, -, rfl⟩, _, rfl, _, ⟨tokenAddr, -, rfl⟩, _, rfl,
    _, ⟨txHash, -, rfl⟩, _, rfl, _, ⟨receivedDate, -, rfl⟩, _, rfl, rfl⟩ := h
  exact ⟨⟨id, requestedDate, tokenAmount, paymentId, fromAddr, receiverAddr, chainId, tokenAddr,
    txHash, receivedDate⟩, rfl⟩

/-- A tree that fills the cells of a transfer-in spells it. -/
theorem fills_cells_iff {tree : Json} {transfer : TransferIn} :
    tree.IsRecord 0 10 ∧ Json.Fills columns tree transfer.cells ↔ IsSpelled tree transfer := by
  simp only [Json.Fills, columns, cells, List.zipIdx_cons, List.zipIdx_nil, List.forall₂_cons,
    List.forall₂_nil_left_iff, missing_required, missing_optional,
    reads_integer.takes_required_iff, reads_text.takes_required_iff,
    reads_integer.takes_optional_iff, reads_text.takes_optional_iff, isSpelled_iff,
    Cell.integer.injEq, Cell.text.injEq, elim_text_inj, elim_integer_inj, exists_eq_right, and_true]
  constructor
  · rintro ⟨hshape, hid, hdate, hamount, hrest⟩
    exact ⟨hshape.of_valuesOf hamount, hid, hdate, hamount, hrest⟩
  · rintro ⟨hshape, hrest⟩
    exact ⟨hshape.of_le (Nat.zero_le 3), hrest⟩

/-- A transfer-in is read from exactly the trees that spell it. -/
theorem ofDraft_eq_ok_iff {tree : Json} {transfer : TransferIn} :
    ofDraft tree.draft = .ok transfer ↔ IsSpelled tree transfer := by
  rw [← fills_cells_iff]
  exact Json.bind_readRecord_eq_ok_iff (by decide) ofCells_cells fun _ ↦ exists_cells

theorem isSpelled_json (transfer : TransferIn) : IsSpelled transfer.json transfer := by
  have hvalues (place : ℕ) (key : String) : transfer.json.valuesOf place key = Json.under key _ :=
    rfl
  rw [isSpelled_iff]
  refine ⟨trivial, ?_⟩
  simp [hvalues, integerJson]

/-- A transfer that was written is read back. -/
theorem ofDraft_json (transfer : TransferIn) : ofDraft transfer.json.draft = .ok transfer :=
  ofDraft_eq_ok_iff.2 (isSpelled_json transfer)

/-- Trees that are alike spell the same transfer-in. -/
theorem isSpelled_iff_of_alike {tree tree' : Json} (h : Json.Alike fields (fun _ ↦ Eq) tree tree')
    (transfer : TransferIn) : IsSpelled tree transfer ↔ IsSpelled tree' transfer := by
  have hmatched := h.matched fun _ _ ↦ rfl
  rw [isSpelled_iff, isSpelled_iff, h.isRecord_iff, (hmatched 0 rfl).eq_singleton_iff,
    (hmatched 1 rfl).eq_singleton_iff, (hmatched 2 rfl).eq_singleton_iff,
    (hmatched 3 rfl).mayHold_iff, (hmatched 4 rfl).mayHold_iff, (hmatched 5 rfl).mayHold_iff,
    (hmatched 6 rfl).mayHold_iff, (hmatched 7 rfl).mayHold_iff, (hmatched 8 rfl).mayHold_iff,
    (hmatched 9 rfl).mayHold_iff]

end TransferIn

/-! ### Chain transfers -/

namespace ChainTransfer

/-- The fields in the order of their places. -/
def fields : List String :=
  ["id", "blockchainDate", "tokenAmount", "chainId", "chainTxId", "fromAddr", "receiverAddr",
    "tokenAddr"]

/-- A tree spells a chain transfer: its number and amount have one value each, and any other field,
the date included, has its value or none. -/
@[mk_iff]
structure IsSpelled (tree : Json) (transfer : ChainTransfer) : Prop where
  isRecord : tree.IsRecord 3 8
  id : tree.valuesOf 0 "id" = [integerJson transfer.id]
  blockchainDate :
    MayHold (tree.valuesOf 1 "blockchainDate") (transfer.blockchainDate.map .string)
  tokenAmount : tree.valuesOf 2 "tokenAmount" = [.string transfer.tokenAmount]
  chainId : MayHold (tree.valuesOf 3 "chainId") (transfer.chainId.map integerJson)
  chainTxId : MayHold (tree.valuesOf 4 "chainTxId") (transfer.chainTxId.map integerJson)
  fromAddr : MayHold (tree.valuesOf 5 "fromAddr") (transfer.fromAddr.map .string)
  receiverAddr : MayHold (tree.valuesOf 6 "receiverAddr") (transfer.receiverAddr.map .string)
  tokenAddr : MayHold (tree.valuesOf 7 "tokenAddr") (transfer.tokenAddr.map .string)

/-- The cells of a chain transfer. -/
def cells (transfer : ChainTransfer) : List Cell :=
  [.integer transfer.id, transfer.blockchainDate.elim .nothing .text, .text transfer.tokenAmount,
    transfer.chainId.elim .nothing .integer, transfer.chainTxId.elim .nothing .integer,
    transfer.fromAddr.elim .nothing .text, transfer.receiverAddr.elim .nothing .text,
    transfer.tokenAddr.elim .nothing .text]

theorem ofCells_cells (transfer : ChainTransfer) : ofCells transfer.cells = .ok transfer := by
  simp [cells, ofCells]

/-- The date is an optional field, since an array that has an amount goes on beyond the date. -/
theorem takes_date_iff {tree : Json} {amount : Json}
    (hamount : tree.valuesOf 2 "tokenAmount" = [amount]) (cell : Cell) :
    Column.Takes { optional "blockchainDate" readText with beyond := none }
        (Column.missing { optional "blockchainDate" readText with beyond := none } tree)
        (tree.valuesOf 1 "blockchainDate") cell ↔
      ∃ value : Option String,
        MayHold (tree.valuesOf 1 "blockchainDate") (value.map .string) ∧
          value.elim .nothing .text = cell := by
  rw [← reads_text.takes_optional_iff "blockchainDate"]
  refine Column.takes_congr rfl fun hnone ↦ ?_
  cases tree with
  | object => rfl
  | array items =>
    obtain ⟨hlt, -⟩ := List.getElem?_eq_some_iff.1 (Option.toList_eq_singleton_iff.1 hamount)
    have hlength := List.getElem?_eq_none_iff.1 (Option.toList_eq_nil_iff.1 hnone)
    omega
  | _ => cases hamount

/-- Cells that a tree fills are those of a chain transfer. -/
theorem exists_cells {tree : Json} {cells : List Cell} (h : Json.Fills columns tree cells) :
    ∃ transfer : ChainTransfer, transfer.cells = cells := by
  simp only [Json.Fills, columns, List.zipIdx_cons, List.zipIdx_nil, forall₂_cons_iff_exists,
    List.forall₂_nil_left_iff, missing_required, missing_optional,
    reads_integer.takes_required_iff, reads_text.takes_required_iff,
    reads_integer.takes_optional_iff, reads_text.takes_optional_iff] at h
  obtain ⟨_, ⟨id, -, rfl⟩, _, rfl, _, hdate, _, rfl, _, ⟨tokenAmount, hamount, rfl⟩, _, rfl,
    _, ⟨chainId, -, rfl⟩, _, rfl, _, ⟨chainTxId, -, rfl⟩, _, rfl,
    _, ⟨fromAddr, -, rfl⟩, _, rfl, _, ⟨receiverAddr, -, rfl⟩, _, rfl,
    _, ⟨tokenAddr, -, rfl⟩, _, rfl, rfl⟩ := h
  obtain ⟨blockchainDate, -, rfl⟩ := (takes_date_iff hamount _).1 hdate
  exact ⟨⟨id, blockchainDate, tokenAmount, chainId, chainTxId, fromAddr, receiverAddr, tokenAddr⟩,
    rfl⟩

/-- A tree that fills the cells of a chain transfer spells it. -/
theorem fills_cells_iff {tree : Json} {transfer : ChainTransfer} :
    tree.IsRecord 0 8 ∧ Json.Fills columns tree transfer.cells ↔ IsSpelled tree transfer := by
  have hdate {amount : Json} (hamount : tree.valuesOf 2 "tokenAmount" = [amount]) :=
    takes_date_iff hamount (transfer.blockchainDate.elim .nothing .text)
  simp only [elim_text_inj, exists_eq_right] at hdate
  simp only [Json.Fills, columns, cells, List.zipIdx_cons, List.zipIdx_nil, List.forall₂_cons,
    List.forall₂_nil_left_iff, missing_required, missing_optional,
    reads_integer.takes_required_iff, reads_text.takes_required_iff,
    reads_integer.takes_optional_iff, reads_text.takes_optional_iff, isSpelled_iff,
    Cell.integer.injEq, Cell.text.injEq, elim_text_inj, elim_integer_inj, exists_eq_right, and_true]
  constructor
  · rintro ⟨hshape, hid, htaken, hamount, hrest⟩
    exact ⟨hshape.of_valuesOf hamount, hid, (hdate hamount).1 htaken, hamount, hrest⟩
  · rintro ⟨hshape, hid, hholds, hamount, hrest⟩
    exact ⟨hshape.of_le (Nat.zero_le 3), hid, (hdate hamount).2 hholds, hamount, hrest⟩

/-- A chain transfer is read from exactly the trees that spell it. -/
theorem ofDraft_eq_ok_iff {tree : Json} {transfer : ChainTransfer} :
    ofDraft tree.draft = .ok transfer ↔ IsSpelled tree transfer := by
  rw [← fills_cells_iff]
  exact Json.bind_readRecord_eq_ok_iff (by decide) ofCells_cells fun _ ↦ exists_cells

theorem isSpelled_json (transfer : ChainTransfer) : IsSpelled transfer.json transfer := by
  have hvalues (place : ℕ) (key : String) : transfer.json.valuesOf place key = Json.under key _ :=
    rfl
  -- A missing date is written as null.
  have hdate : MayHold [transfer.blockchainDate.elim .null .string]
      (transfer.blockchainDate.map .string) := by
    cases transfer.blockchainDate with
    | none => exact .inr ⟨rfl, rfl⟩
    | some date => exact .inl rfl
  rw [isSpelled_iff]
  refine ⟨trivial, ?_⟩
  simpa [hvalues, integerJson] using hdate

/-- A transfer that was written is read back. -/
theorem ofDraft_json (transfer : ChainTransfer) : ofDraft transfer.json.draft = .ok transfer :=
  ofDraft_eq_ok_iff.2 (isSpelled_json transfer)

/-- Trees that are alike spell the same chain transfer. -/
theorem isSpelled_iff_of_alike {tree tree' : Json} (h : Json.Alike fields (fun _ ↦ Eq) tree tree')
    (transfer : ChainTransfer) : IsSpelled tree transfer ↔ IsSpelled tree' transfer := by
  have hmatched := h.matched fun _ _ ↦ rfl
  rw [isSpelled_iff, isSpelled_iff, h.isRecord_iff, (hmatched 0 rfl).eq_singleton_iff,
    (hmatched 1 rfl).mayHold_iff, (hmatched 2 rfl).eq_singleton_iff, (hmatched 3 rfl).mayHold_iff,
    (hmatched 4 rfl).mayHold_iff, (hmatched 5 rfl).mayHold_iff, (hmatched 6 rfl).mayHold_iff,
    (hmatched 7 rfl).mayHold_iff]

end ChainTransfer

end RunningBalance
