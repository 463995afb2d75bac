import Mathlib.Data.List.Forall2
import RunningBalance.Json.Record
import RunningBalance.Proofs.Attempts

/-!
# What records are read from

A record has a field for each column. An object gives a field the values under its key, and an array
the item at its place (`valuesOf`). A record is read exactly if every field has one value, which its
column reads, or none where something stands for a missing one (`Fills`, `readRecord_eq_ok_iff`).
-/

set_option autoImplicit false
set_option relaxedAutoImplicit false

namespace RunningBalance.Json

/-! ### Values are whole -/

mutual

theorem isWhole_draft (json : Json) : json.draft.isWhole = true := by
  match json with
  | .null => rfl
  | .bool _ => rfl
  | .integer _ => rfl
  | .decimal _ _ _ => rfl
  | .string _ => rfl
  | .array items => exact itemsWhole_draftItems items
  | .object members => exact membersWhole_draftMembers members

theorem itemsWhole_draftItems (items : List Json) :
    Draft.itemsWhole (draftItems items) = true := by
  match items with
  | [] => rfl
  | item :: items =>
    rw [draftItems, Draft.itemsWhole, isWhole_draft item, itemsWhole_draftItems items]
    rfl

theorem membersWhole_draftMembers (members : List (String × Json)) :
    Draft.membersWhole (draftMembers members) = true := by
  match members with
  | [] => rfl
  | (key, value) :: members =>
    rw [draftMembers, Draft.membersWhole, isWhole_draft value, membersWhole_draftMembers members]
    rfl

end

theorem draftItems_eq_map (items : List Json) : draftItems items = items.map draft := by
  induction items with
  | nil => rfl
  | cons item items ih => rw [draftItems, ih, List.map_cons]

/-! ### The fields of a tree -/

/-- The values of the members with a key, in their order. -/
def under (key : String) (members : List (String × Json)) : List Json :=
  (members.filter fun member ↦ member.1 = key).map Prod.snd

/-- The values that a tree gives a field: those under its key, or the one at its place. -/
def valuesOf (place : ℕ) (key : String) : Json → List Json
  | .object members => under key members
  | .array items => items[place]?.toList
  | _ => []

/-- A tree that can be a record: an object, or an array with so many items. -/
def IsRecord (least most : ℕ) : Json → Prop
  | .object _ => True
  | .array items => least ≤ items.length ∧ items.length ≤ most
  | _ => False

/-- The values of a field that may have none: then it is absent or null. -/
def MayHold (values : List Json) (value : Option Json) : Prop :=
  values = value.toList ∨ value = none ∧ values = [.null]

/-- The values of a field that has a list: it is absent, or an array whose items spell the list. -/
def HoldsList {β : Type} (spells : Json → β → Prop) (values : List Json) (list : List β) : Prop :=
  values = [] ∧ list = [] ∨ ∃ items, values = [.array items] ∧ List.Forall₂ spells items list

@[simp] theorem mayHold_toList (value : Option Json) : MayHold value.toList value :=
  .inl rfl

theorem holdsList_array_iff {β : Type} {spells : Json → β → Prop} {items : List Json}
    {list : List β} : HoldsList spells [.array items] list ↔ List.Forall₂ spells items list := by
  simp [HoldsList]

section Shape

variable {tree : Json} {least most place : ℕ}

/-- A record with a value for a field goes up to its place. -/
theorem IsRecord.of_valuesOf (h : tree.IsRecord least most) {key : String} {value : Json}
    (hvalue : tree.valuesOf place key = [value]) : tree.IsRecord (place + 1) most := by
  cases tree with
  | object => trivial
  | array items =>
    obtain ⟨hlt, -⟩ := List.getElem?_eq_some_iff.1 (Option.toList_eq_singleton_iff.1 hvalue)
    exact ⟨hlt, h.2⟩
  | _ => exact h.elim

theorem IsRecord.of_le {shorter : ℕ} (h : tree.IsRecord least most) (hle : shorter ≤ least) :
    tree.IsRecord shorter most := by
  cases tree with
  | object => trivial
  | array items => exact ⟨Nat.le_trans hle h.1, h.2⟩
  | _ => exact h.elim

end Shape

section Under

variable {key : String} {members : List (String × Json)}

@[simp] theorem under_nil : under key [] = [] :=
  rfl

@[simp] theorem under_cons_self (value : Json) :
    under key ((key, value) :: members) = value :: under key members := by
  simp [under]

@[simp] theorem under_cons_of_ne {other : String} (value : Json) (h : key ≠ other) :
    under key ((other, value) :: members) = under key members := by
  simp [under, h.symm]

@[simp] theorem under_append (members later : List (String × Json)) :
    under key (members ++ later) = under key members ++ under key later := by
  rw [under, List.filter_append, List.map_append, under, under]

end Under

/-! ### Reading a record -/

variable {α : Type} {columns : List (Column α)}

/-- What stands for a cell that a tree lacks. -/
def Column.missing (column : Column α) : Json → Option α
  | .object _ => column.absent
  | _ => column.beyond

/-- The cell of a field: its one value as the column reads it, or what stands for a missing one. -/
inductive Column.Takes (column : Column α) (missing : Option α) : List Json → α → Prop
  | absent {cell : α} (hcell : missing = some cell) : Takes column missing [] cell
  | value {json : Json} {cell : α} (hread : column.read json.draft = .ok cell) :
    Takes column missing [json] cell

/-- A tree fills the cells of a record: each column takes its cell from the values of its field. -/
def Fills (columns : List (Column α)) (tree : Json) : List α → Prop :=
  List.Forall₂ (fun field cell ↦
    field.1.Takes (field.1.missing tree) (tree.valuesOf field.2 field.1.name) cell) columns.zipIdx

/-- What becomes of a cell while members are read: it stays if none of them is of its field, and it
is read if one is and there was no cell. -/
inductive Column.Finds (column : Column α) : Option α → List Json → Option α → Prop
  | kept (held : Option α) : Finds column held [] held
  | read {json : Json} {cell : α} (hread : column.read json.draft = .ok cell) :
    Finds column none [json] (some cell)

section Takes

variable {column : Column α} {missing : Option α} {cell : α}

theorem Column.takes_nil_iff : column.Takes missing [] cell ↔ missing = some cell := by
  constructor
  · intro h
    cases h with
    | absent hcell => exact hcell
  · exact .absent

theorem Column.takes_singleton_iff {json : Json} :
    column.Takes missing [json] cell ↔ column.read json.draft = .ok cell := by
  constructor
  · intro h
    cases h with
    | value hread => exact hread
  · exact .value

/-- What stands for a missing cell makes no difference to a field with values. -/
theorem Column.takes_congr {other : Column α} {missing' : Option α} {values : List Json}
    (hread : column.read = other.read) (hmissing : values = [] → missing = missing') :
    column.Takes missing values cell ↔ other.Takes missing' values cell := by
  match values with
  | [] => rw [takes_nil_iff, takes_nil_iff, hmissing rfl]
  | [json] => rw [takes_singleton_iff, takes_singleton_iff, hread]
  | _ :: _ :: _ => exact ⟨nofun, nofun⟩

/-- A cell that is taken can be found. -/
theorem Column.Takes.exists_finds {values : List Json} (h : column.Takes missing values cell) :
    ∃ after, column.Finds none values after := by
  cases h with
  | absent => exact ⟨none, .kept none⟩
  | value hread => exact ⟨some cell, .read hread⟩

end Takes

section Members

variable {members : List (String × Json)} {seen found : List (String × α)}

/-- The column with a key is the only one. -/
theorem find?_eq_of_mem (hnodup : (columns.map Column.name).Nodup) {column : Column α}
    (hmem : column ∈ columns) : columns.find? (·.name == column.name) = some column := by
  obtain ⟨before, after, rfl⟩ := List.append_of_mem hmem
  rw [List.map_append, List.map_cons, List.nodup_append] at hnodup
  refine List.find?_eq_some_iff_append.2 ⟨beq_self_eq_true _, before, after, rfl, ?_⟩
  intro other hother
  have hne := hnodup.2.2 other.name (List.mem_map_of_mem hother) column.name List.mem_cons_self
  simpa using hne

theorem ne_of_find?_eq_none {key : String} (h : columns.find? (·.name == key) = none)
    {column : Column α} (hmem : column ∈ columns) : column.name ≠ key := by
  simpa using List.find?_eq_none.1 h column hmem

/-- A member that is read without a fault leaves the later members to be read. -/
theorem readMembers_cons_eq_ok_iff {key : String} {value : Json} :
    readMembers columns seen (draftMembers ((key, value) :: members)) = .ok found ↔
      match columns.find? (·.name == key) with
      | none => readMembers columns seen (draftMembers members) = .ok found
      | some column => seen.lookup key = none ∧ ∃ cell, column.read value.draft = .ok cell ∧
          readMembers columns ((key, cell) :: seen) (draftMembers members) = .ok found := by
  rw [draftMembers, readMembers]
  cases columns.find? (·.name == key) with
  | none => simp only [isWhole_draft, if_true]
  | some column =>
    cases seen.lookup key with
    | some cell => simp
    | none => cases hread : column.read value.draft <;> simp [hread]

/-- Members that are read without a fault give each column its cell. -/
theorem finds_of_readMembers (hnodup : (columns.map Column.name).Nodup)
    (h : readMembers columns seen (draftMembers members) = .ok found) :
    ∀ column ∈ columns, column.Finds (seen.lookup column.name) (under column.name members)
      (found.lookup column.name) := by
  induction members generalizing seen with
  | nil =>
    cases h
    exact fun column _ ↦ .kept _
  | cons member members ih =>
    obtain ⟨key, value⟩ := member
    rw [readMembers_cons_eq_ok_iff] at h
    intro column hmem
    split at h
    · next hnone =>
      rw [under_cons_of_ne value (ne_of_find?_eq_none hnone hmem)]
      exact ih h column hmem
    · next other hsome =>
      obtain ⟨hseen, cell, hread, hlater⟩ := h
      have hfinds := ih hlater column hmem
      by_cases hkey : column.name = key
      · subst hkey
        rw [find?_eq_of_mem hnodup hmem] at hsome
        obtain rfl := Option.some.inj hsome
        rw [List.lookup_cons, beq_self_eq_true] at hfinds
        rw [under_cons_self, hseen]
        -- No later member has the key, since the column has a cell already.
        generalize under column.name members = values at hfinds
        generalize found.lookup column.name = after at hfinds
        cases hfinds with
        | kept => exact .read hread
      · rw [List.lookup_cons, beq_eq_false_iff_ne.2 hkey] at hfinds
        rw [under_cons_of_ne value hkey]
        exact hfinds

/-- Members are read without a fault if each column can be given a cell. -/
theorem exists_readMembers (h : ∀ column ∈ columns, ∃ after,
      column.Finds (seen.lookup column.name) (under column.name members) after) :
    ∃ found, readMembers columns seen (draftMembers members) = .ok found := by
  induction members generalizing seen with
  | nil => exact ⟨seen, rfl⟩
  | cons member members ih =>
    obtain ⟨key, value⟩ := member
    simp only [readMembers_cons_eq_ok_iff]
    cases hfind : columns.find? (·.name == key) with
    | none =>
      refine ih fun column hmem ↦ ?_
      obtain ⟨after, hfinds⟩ := h column hmem
      rw [under_cons_of_ne value (ne_of_find?_eq_none hfind hmem)] at hfinds
      exact ⟨after, hfinds⟩
    | some column =>
      have hmem := List.mem_of_find?_eq_some hfind
      obtain rfl : column.name = key := by simpa using List.find?_some hfind
      obtain ⟨after, hfinds⟩ := h column hmem
      rw [under_cons_self] at hfinds
      generalize hseen : seen.lookup column.name = held at hfinds
      generalize hvalues : under column.name members = values at hfinds
      cases hfinds with
      | read hread =>
        rename_i cell
        obtain ⟨found, hfound⟩ : ∃ found, readMembers columns ((column.name, cell) :: seen)
            (draftMembers members) = .ok found := by
          refine ih fun other hother ↦ ?_
          by_cases hname : other.name = column.name
          · rw [hname, hvalues]
            exact ⟨_, .kept _⟩
          · obtain ⟨after, hfinds⟩ := h other hother
            rw [under_cons_of_ne value hname] at hfinds
            rw [List.lookup_cons, beq_eq_false_iff_ne.2 hname]
            exact ⟨after, hfinds⟩
        exact ⟨found, rfl, cell, hread, hfound⟩

end Members

variable {cells : List α}

/-- An object is read as a record exactly if each column takes its cell from the values under its
key. -/
theorem readRecord_object (hnodup : (columns.map Column.name).Nodup)
    {members : List (String × Json)} :
    readRecord columns (Json.object members).draft = .ok cells ↔
      List.Forall₂ (fun column cell ↦ column.Takes column.absent (under column.name members) cell)
        columns cells := by
  have hrecord : readRecord columns (Json.object members).draft = .ok cells ↔
      ∃ found, readMembers columns [] (draftMembers members) = .ok found ∧
        List.Forall₂ (fun column cell ↦ cellOf found column = .ok cell) columns cells := by
    simp only [draft, readRecord, ← Attempts.mapM_eq_ok_iff]
    cases readMembers columns [] (draftMembers members) <;> simp [bind, Except.bind]
  have hcell {found : List (String × α)} {column : Column α} {cell : α}
      (hfinds : column.Finds none (under column.name members) (found.lookup column.name)) :
      cellOf found column = .ok cell ↔
        column.Takes column.absent (under column.name members) cell := by
    rw [cellOf]
    generalize under column.name members = values at hfinds
    generalize found.lookup column.name = after at hfinds
    cases hfinds with
    | kept =>
      rw [Column.takes_nil_iff]
      cases column.absent <;> simp
    | read hread => rw [Column.takes_singleton_iff, hread]
  rw [hrecord]
  constructor
  · rintro ⟨found, hfound, hcells⟩
    have hall := (List.forall₂_and_left columns cells).2
      ⟨finds_of_readMembers hnodup hfound, hcells⟩
    exact hall.imp fun column cell h ↦ (hcell h.1).1 h.2
  · intro htakes
    have hfinds := (List.forall₂_and_left columns cells).1
      (htakes.imp fun column cell h ↦ ⟨h.exists_finds, h⟩)
    obtain ⟨found, hfound⟩ : ∃ found, readMembers columns [] (draftMembers members) = .ok found :=
      exists_readMembers hfinds.1
    refine ⟨found, hfound, ?_⟩
    have hall := (List.forall₂_and_left columns cells).2
      ⟨finds_of_readMembers hnodup hfound, htakes⟩
    exact hall.imp fun column cell h ↦ (hcell h.1).2 h.2

/-- The first column takes its cell from the item that comes next. -/
theorem readCells_cons_eq_ok_iff {column : Column α} {items : List Json} (start : ℕ) :
    readCells (column :: columns) (draftItems (items.drop start)) = .ok cells ↔
      ∃ cell later, column.Takes column.beyond items[start]?.toList cell ∧
        readCells columns (draftItems (items.drop (start + 1))) = .ok later ∧
        cells = cell :: later := by
  rw [← List.head?_drop, ← List.tail_drop]
  cases items.drop start with
  | nil =>
    simp only [draftItems, readCells, List.tail_nil, List.head?_nil, Option.toList_none,
      Column.takes_nil_iff]
    cases column.beyond with
    | none => simp
    | some cell => cases readCells columns [] <;> simp [Except.map, eq_comm]
  | cons item rest =>
    simp only [draftItems, readCells, List.tail_cons, List.head?_cons, Option.toList_some,
      Column.takes_singleton_iff]
    cases column.read item.draft with
    | error fault => simp
    | ok cell => cases readCells columns (draftItems rest) <;> simp [Except.map, eq_comm]

/-- An array is read as a record exactly if it is not too long and each column takes its cell from
the item at its place. -/
theorem readCells_drop_eq_ok_iff {items : List Json} (start : ℕ) :
    readCells columns (draftItems (items.drop start)) = .ok cells ↔
      items.length ≤ start + columns.length ∧
        List.Forall₂ (fun field cell ↦ field.1.Takes field.1.beyond items[field.2]?.toList cell)
          (columns.zipIdx start) cells := by
  induction columns generalizing start cells with
  | nil =>
    rw [List.zipIdx_nil, List.forall₂_nil_left_iff, List.length_nil, Nat.add_zero]
    cases hlater : items.drop start with
    | nil =>
      have hlength := List.drop_eq_nil_iff.1 hlater
      simp [draftItems, readCells, hlength, eq_comm]
    | cons item later =>
      have hlength : ¬items.length ≤ start := by
        rw [← List.drop_eq_nil_iff, hlater]
        exact List.cons_ne_nil _ _
      simp [draftItems, readCells, hlength]
  | cons column columns ih =>
    simp only [readCells_cons_eq_ok_iff, ih, List.zipIdx_cons, List.forall₂_cons_left_iff,
      List.length_cons, Nat.add_assoc, Nat.add_comm 1]
    constructor
    · rintro ⟨cell, later, htakes, ⟨hlength, hlater⟩, rfl⟩
      exact ⟨hlength, cell, later, htakes, hlater, rfl⟩
    · rintro ⟨hlength, cell, later, htakes, hlater, rfl⟩
      exact ⟨cell, later, htakes, ⟨hlength, hlater⟩, rfl⟩

/-- A record is read exactly if the tree fills its cells, and gives values to no other fields by
their place. -/
theorem readRecord_eq_ok_iff (hnodup : (columns.map Column.name).Nodup) {tree : Json} :
    readRecord columns tree.draft = .ok cells ↔
      tree.IsRecord 0 columns.length ∧ Fills columns tree cells := by
  cases tree with
  | object members =>
    have hcolumns : columns.zipIdx.map Prod.fst = columns := List.zipIdx_map_fst 0 columns
    rw [readRecord_object hnodup]
    conv_lhs => rw [← hcolumns, List.forall₂_map_left_iff]
    exact (and_iff_right trivial).symm
  | array items =>
    have hitems : readCells columns (draftItems (items.drop 0)) = .ok cells ↔ _ :=
      readCells_drop_eq_ok_iff 0
    rw [List.drop_zero, Nat.zero_add] at hitems
    simp only [draft, readRecord, hitems, IsRecord, Nat.zero_le, true_and]
    rfl
  | _ => exact ⟨nofun, fun h ↦ h.1.elim⟩

/-- A decoder of records accepts a tree exactly if it fills the cells of the value. -/
theorem bind_readRecord_eq_ok_iff {β : Type} {ofCells : List α → Except Fault β}
    {cellsOf : β → List α} (hnodup : (columns.map Column.name).Nodup) {tree : Json}
    (hvalue : ∀ value, ofCells (cellsOf value) = .ok value)
    (hcells : ∀ cells, Fills columns tree cells → ∃ value, cellsOf value = cells) {value : β} :
    (readRecord columns tree.draft >>= ofCells) = .ok value ↔
      tree.IsRecord 0 columns.length ∧ Fills columns tree (cellsOf value) := by
  rw [← readRecord_eq_ok_iff hnodup]
  cases hrecord : readRecord columns tree.draft with
  | error fault => exact ⟨nofun, nofun⟩
  | ok cells =>
    obtain ⟨other, rfl⟩ := hcells cells ((readRecord_eq_ok_iff hnodup).1 hrecord).2
    constructor
    · intro h
      obtain rfl : other = value := Except.ok.inj ((hvalue other).symm.trans h)
      rfl
    · intro h
      rw [Except.ok.inj h]
      exact hvalue value

/-- A list is read from exactly the arrays whose items spell it. -/
theorem readList_eq_ok_iff {β : Type} {decoder : Draft → Except Fault β}
    {spells : Json → β → Prop} (hdecoder : ∀ json x, decoder json.draft = .ok x ↔ spells json x)
    {json : Json} {list : List β} :
    readList decoder json.draft = .ok list ↔ HoldsList spells [json] list := by
  cases json with
  | array items =>
    rw [holdsList_array_iff, draft, readList, draftItems_eq_map, Attempts.mapM_eq_ok_iff,
      List.forall₂_map_left_iff]
    simp only [hdecoder]
  | _ =>
    refine ⟨nofun, ?_⟩
    rintro (⟨hnil, -⟩ | ⟨items, harray, -⟩)
    · cases hnil
    · cases harray

end RunningBalance.Json
