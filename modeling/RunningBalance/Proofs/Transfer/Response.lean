import RunningBalance.Proofs.Json.Reading
import RunningBalance.Proofs.Transfer

/-!
# What responses are read from

A tree spells the transfers of an account if each of its two lists is absent or an array whose items
spell the transfers (`Transfers.IsSpelled`). A response is accepted exactly if its tree spells
transfers, which are then what is read (`response_read_iff_spelled`). The order of members and
members with unknown keys make no difference, at the top or in a transfer (`Transfers.Alike`).

Transfers that are written and read are the same, and a response that is written once more after it
was read keeps its text from then on (`response_survives_encoding`).
-/

set_option autoImplicit false
set_option relaxedAutoImplicit false

namespace RunningBalance

open Json (AlikeItems Column Draft Fault HoldsList)

namespace Transfers

/-- The fields in the order of their places. -/
def fields : List String :=
  ["transfersIn", "chainTransfers"]

/-- A tree spells the transfers of an account: each list is absent, and then empty, or it is an
array whose items spell the transfers. -/
@[mk_iff]
structure IsSpelled (tree : Json) (transfers : Transfers) : Prop where
  isRecord : tree.IsRecord 0 2
  transfersIn :
    HoldsList TransferIn.IsSpelled (tree.valuesOf 0 "transfersIn") transfers.transfersIn
  chainTransfers :
    HoldsList ChainTransfer.IsSpelled (tree.valuesOf 1 "chainTransfers") transfers.chainTransfers

/-- Lists in a field that differ at most in the order of members and in unknown members of the
transfers. -/
def AlikeIn : String → Json → Json → Prop
  | "transfersIn" => AlikeItems (Json.Alike TransferIn.fields fun _ ↦ Eq)
  | "chainTransfers" => AlikeItems (Json.Alike ChainTransfer.fields fun _ ↦ Eq)
  | _ => Eq

/-- Trees that differ at most in the order of members and in unknown members, of the tree itself and
of each transfer in it. -/
def Alike : Json → Json → Prop :=
  Json.Alike fields AlikeIn

/-! ### Reading -/

section Lists

variable {β : Type} {decoder : Draft → Except Fault β} {spells : Json → β → Prop}

/-- The column of a list takes the list that the values of its field hold. -/
theorem takes_list_iff (hdecoder : ∀ json x, decoder json.draft = .ok x ↔ spells json x)
    {name : String} {wrap : List β → Cell} {values : List Json} {cell : Cell} :
    Column.Takes
        { name, read := fun draft ↦ wrap <$> Json.readList decoder draft
          absent := some (wrap []), beyond := some (wrap []) }
        (some (wrap [])) values cell ↔
      ∃ list, HoldsList spells values list ∧ wrap list = cell := by
  have hread (json : Json) : wrap <$> Json.readList decoder json.draft = .ok cell ↔
      ∃ list, HoldsList spells [json] list ∧ wrap list = cell := by
    simp only [← Json.readList_eq_ok_iff hdecoder]
    cases Json.readList decoder json.draft <;> simp [Functor.map, Except.map]
  constructor
  · intro h
    cases h with
    | absent hcell => exact ⟨[], .inl ⟨rfl, rfl⟩, Option.some.inj hcell⟩
    | value hvalue => exact (hread _).1 hvalue
  · rintro ⟨list, ⟨rfl, rfl⟩ | ⟨items, rfl, hitems⟩, rfl⟩
    · exact .absent rfl
    · exact .value ((hread _).2 ⟨list, .inr ⟨items, rfl, hitems⟩, rfl⟩)

end Lists

/-- The cells of both lists. -/
def cells (transfers : Transfers) : List Cell :=
  [.transfersIn transfers.transfersIn, .chainTransfers transfers.chainTransfers]

theorem ofCells_cells (transfers : Transfers) : ofCells transfers.cells = .ok transfers :=
  rfl

/-- The cells of a response are filled by the lists that its fields hold. -/
theorem fills_iff {tree : Json} {cells : List Cell} :
    Json.Fills columns tree cells ↔ ∃ transfersIn chainTransfers,
      HoldsList TransferIn.IsSpelled (tree.valuesOf 0 "transfersIn") transfersIn ∧
        HoldsList ChainTransfer.IsSpelled (tree.valuesOf 1 "chainTransfers") chainTransfers ∧
        [.transfersIn transfersIn, .chainTransfers chainTransfers] = cells := by
  have hmissing {column : Column Cell} (h : column.absent = column.beyond) :
      column.missing tree = column.absent := by
    cases tree with
    | object => rfl
    | _ => exact h.symm
  simp only [Json.Fills, columns, List.zipIdx_cons, List.zipIdx_nil, List.forall₂_cons_left_iff,
    List.forall₂_nil_left_iff, hmissing]
  simp only [takes_list_iff fun _ _ ↦ TransferIn.ofDraft_eq_ok_iff,
    takes_list_iff fun _ _ ↦ ChainTransfer.ofDraft_eq_ok_iff]
  constructor
  · rintro ⟨_, _, ⟨transfersIn, hin, rfl⟩, ⟨_, _, ⟨chainTransfers, hchain, rfl⟩, rfl, rfl⟩, rfl⟩
    exact ⟨transfersIn, chainTransfers, hin, hchain, rfl⟩
  · rintro ⟨transfersIn, chainTransfers, hin, hchain, rfl⟩
    exact ⟨_, _, ⟨transfersIn, hin, rfl⟩, ⟨_, _, ⟨chainTransfers, hchain, rfl⟩, rfl, rfl⟩, rfl⟩

/-- A response is read from exactly the trees that spell its transfers. -/
theorem ofDraft_eq_ok_iff {tree : Json} {transfers : Transfers} :
    ofDraft tree.draft = .ok transfers ↔ IsSpelled tree transfers := by
  have hcells (cells : List Cell) (h : Json.Fills columns tree cells) :
      ∃ transfers : Transfers, transfers.cells = cells := by
    obtain ⟨transfersIn, chainTransfers, -, -, hcells⟩ := fills_iff.1 h
    exact ⟨{ transfersIn, chainTransfers }, hcells⟩
  have hrecord : ofDraft tree.draft = .ok transfers ↔
      tree.IsRecord 0 2 ∧ Json.Fills columns tree transfers.cells :=
    Json.bind_readRecord_eq_ok_iff (by decide) ofCells_cells hcells
  rw [hrecord, isSpelled_iff, fills_iff]
  refine and_congr_right fun _ ↦ ⟨?_, fun ⟨hin, hchain⟩ ↦ ⟨_, _, hin, hchain, rfl⟩⟩
  rintro ⟨_, _, hin, hchain, hcells⟩
  cases hcells
  exact ⟨hin, hchain⟩

theorem isSpelled_json (transfers : Transfers) : IsSpelled transfers.json transfers := by
  have hlist {β : Type} {json : β → Json} {spells : Json → β → Prop}
      (hjson : ∀ x, spells (json x) x) (list : List β) :
      HoldsList spells [.array (list.map json)] list := by
    rw [Json.holdsList_array_iff, List.forall₂_map_left_iff, List.forall₂_same]
    exact fun x _ ↦ hjson x
  exact ⟨trivial, hlist TransferIn.isSpelled_json _, hlist ChainTransfer.isSpelled_json _⟩

/-- Trees that are alike spell the same transfers. -/
theorem isSpelled_iff_of_alike {tree tree' : Json} (h : Alike tree tree') {transfers : Transfers} :
    IsSpelled tree transfers ↔ IsSpelled tree' transfers := by
  have hrefl (key : String) (json : Json) : AlikeIn key json json := by
    rw [AlikeIn.eq_def]
    split
    · exact .refl json
    · exact .refl json
    · rfl
  have hin : Json.Matched (AlikeItems _) _ _ := h.matched hrefl 0 rfl
  have hchain : Json.Matched (AlikeItems _) _ _ := h.matched hrefl 1 rfl
  rw [isSpelled_iff, isSpelled_iff, h.isRecord_iff]
  refine and_congr_right fun _ ↦ and_congr ?_ ?_
  · exact hin.holdsList_iff fun _ _ ↦ TransferIn.isSpelled_iff_of_alike
  · exact hchain.holdsList_iff fun _ _ ↦ ChainTransfer.isSpelled_iff_of_alike

/-- A transfer of each kind: the date of the chain transfer is not known. -/
def sampleTransfers : Transfers :=
  { transfersIn := [{ id := -7, requestedDate := "\"2024\"", tokenAmount := "é" }]
    chainTransfers := [{ id := 1, blockchainDate := none, tokenAmount := "2" }] }

/-- The same transfers with their members in another order and one more member. -/
def sampleTree : Json :=
  .object
    [("transfersIn", .array
        [.object [("id", .integer (-7)), ("requestedDate", .string "\"2024\""),
          ("tokenAmount", .string "é")]]),
      ("note", .null),
      ("chainTransfers", .array
        [.object [("id", .integer 1), ("blockchainDate", .null), ("tokenAmount", .string "2")]])]

theorem alike_sampleTree : Alike sampleTransfers.json sampleTree := by
  refine .object (.swap _ _ []) (.cons ⟨rfl, .refl _⟩ (.cons ⟨rfl, .array (.cons ?_ .nil)⟩ .nil))
  exact .object (.swap _ _ _)
    (.cons ⟨rfl, rfl⟩ (.cons ⟨rfl, rfl⟩ (.cons ⟨rfl, rfl⟩ .nil)))

/-- A response is accepted exactly if its tree spells transfers, and then these are what is read,
from the tree and from any text of it. A tree that differs at most in the order of members and in
unknown members spells the same transfers. -/
theorem response_read_iff_spelled (tree : Json) :
    (∀ transfers, ofDraft tree.draft = .ok transfers ↔ IsSpelled tree transfers) ∧
      (∀ text, Json.Reading.ofText text = { tree := tree.draft, complete := true } →
        ofText text = ofDraft tree.draft) ∧
      ∀ tree', Alike tree tree' →
        ∀ transfers, ofDraft tree'.draft = .ok transfers ↔ ofDraft tree.draft = .ok transfers := by
  refine ⟨fun _ ↦ ofDraft_eq_ok_iff, fun _ ↦ Json.decode_of_complete ofDraft, ?_⟩
  intro tree' hlike transfers
  rw [ofDraft_eq_ok_iff, ofDraft_eq_ok_iff, isSpelled_iff_of_alike hlike]

theorem sample_response_read :
    IsSpelled sampleTransfers.json sampleTransfers ∧
      ofText sampleTransfers.json.compact = .ok sampleTransfers ∧
      ofDraft sampleTree.draft = .ok sampleTransfers := by
  have hspelled := isSpelled_json sampleTransfers
  obtain ⟨hread, htext, halike⟩ := response_read_iff_spelled sampleTransfers.json
  refine ⟨hspelled, ?_, ?_⟩
  · rw [htext _ (Json.ofText_compact _), hread]
    exact hspelled
  · rw [halike _ alike_sampleTree, hread]
    exact hspelled

/-! ### Writing and reading -/

/-- What is written for transfers is read as these transfers, in whatever order the members stand,
on one line or spread over lines. -/
theorem ofText_print_of_alike (transfers : Transfers) {tree : Json} (spread : Bool)
    (hlike : Alike transfers.json tree) :
    ofText (String.ofList (Json.print spread 0 tree)) = .ok transfers := by
  rw [ofText, Json.decode_print, ofDraft_eq_ok_iff, ← isSpelled_iff_of_alike hlike]
  exact isSpelled_json transfers

theorem ofText_compact (transfers : Transfers) : ofText transfers.json.compact = .ok transfers :=
  ofText_print_of_alike transfers false (.refl _)

/-- The text of a response after it was read and written. -/
def reencode (body : String) : Except Fault String := do
  let transfers ← ofText body
  return transfers.json.compact

/-- What is written for transfers is read as these transfers, in whatever order the members stand.
So a response that was read and written means the same, and reading and writing it once more does
not change its text. -/
theorem response_survives_encoding :
    (∀ (transfers : Transfers) (tree : Json) (spread : Bool), Alike transfers.json tree →
      ofText (String.ofList (Json.print spread 0 tree)) = .ok transfers) ∧
      ∀ body text, reencode body = .ok text →
        ofText text = ofText body ∧ reencode text = .ok text := by
  refine ⟨fun transfers _ spread ↦ ofText_print_of_alike transfers spread, fun body text h ↦ ?_⟩
  rw [reencode] at h
  cases hbody : ofText body with
  | error fault =>
    rw [hbody] at h
    cases h
  | ok transfers =>
    rw [hbody] at h
    obtain rfl : transfers.json.compact = text := Except.ok.inj h
    refine ⟨ofText_compact transfers, ?_⟩
    rw [reencode, ofText_compact]
    rfl

theorem sample_response_survives :
    ofText sampleTree.pretty = .ok sampleTransfers ∧
      ∃ text, reencode sampleTree.pretty = .ok text ∧ reencode text = .ok text := by
  have hread := response_survives_encoding.1 sampleTransfers sampleTree true alike_sampleTree
  have htext : reencode sampleTree.pretty = .ok sampleTransfers.json.compact := by
    rw [reencode, Json.pretty, hread]
    rfl
  exact ⟨hread, _, htext, (response_survives_encoding.2 _ _ htext).2⟩

end Transfers

end RunningBalance
