import RunningBalance.Json.Basic

/-!
# Records in JSON

A record is an object whose keys are the names of its columns, in any order and with unknown keys
between them, or an array of its cells in the order of the columns. `readRecord` reads either, and
reports the first fault in the order of the draft.
-/

set_option autoImplicit false
set_option relaxedAutoImplicit false

namespace RunningBalance.Json

variable {α β : Type}

/-- A column of a record: its key, how a cell is read, and what stands for the cell when an object
lacks the key or an array ends before it; where nothing does, the cell is required. -/
structure Column (α : Type) where
  name : String
  read : Draft → Except Fault α
  absent : Option α
  beyond : Option α

/-- The cells of the members with a column's key, each of which occurs once. The value of an unknown
key may be anything that is not torn. -/
def readMembers (columns : List (Column α)) (seen : List (String × α)) :
    List (Option String × Draft) → Except Fault (List (String × α))
  | [] => .ok seen
  | (none, _) :: _ => .error .malformed
  | (some key, value) :: members =>
    match columns.find? (·.name == key) with
    | none => if value.isWhole then readMembers columns seen members else .error .malformed
    | some column =>
      if (seen.lookup key).isSome then .error (.duplicate key)
      else
        match column.read value with
        | .ok cell => readMembers columns ((key, cell) :: seen) members
        | .error fault => .error fault

/-- The cell of a column among those that were read. -/
def cellOf (seen : List (String × α)) (column : Column α) : Except Fault α :=
  match seen.lookup column.name, column.absent with
  | some cell, _ => .ok cell
  | none, some cell => .ok cell
  | none, none => .error (.missing column.name)

/-- The cells of an array, one for each column. -/
def readCells : List (Column α) → List Draft → Except Fault (List α)
  | [], [] => .ok []
  | [], _ :: _ => .error .malformed
  | column :: columns, [] =>
    match column.beyond with
    | some cell => (readCells columns []).map (cell :: ·)
    | none => .error .malformed
  | column :: columns, item :: items =>
    match column.read item with
    | .ok cell => (readCells columns items).map (cell :: ·)
    | .error fault => .error fault

/-- The cells of a record, in the order of the columns. -/
def readRecord (columns : List (Column α)) : Draft → Except Fault (List α)
  | .object members => do
    let seen ← readMembers columns [] members
    columns.mapM (cellOf seen)
  | .array items => readCells columns items
  | _ => .error .malformed

/-- A string that has a text. -/
def readString : Draft → Except Fault String
  | .string (some value) => .ok value
  | _ => .error .malformed

/-- The items of an array, each read alike. -/
def readList (read : Draft → Except Fault β) : Draft → Except Fault (List β)
  | .array items => items.mapM read
  | _ => .error .malformed

/-- One of the given names: a string, or an object that gives the name the value null. -/
def readChoice (choices : List (String × β)) : Draft → Except Fault β
  | .string (some name) => pick name
  | .object [(some name, .null)] => pick name
  | _ => .error .malformed
where
  pick (name : String) : Except Fault β :=
    match choices.lookup name with
    | some choice => .ok choice
    | none => .error .malformed

end RunningBalance.Json
