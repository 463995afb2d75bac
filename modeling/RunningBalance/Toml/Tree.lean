import RunningBalance.Toml.Basic

/-!
# Tables under construction

How a table came to be decides what may still be added to it. A header opens a table once, but the
tables on the way to it may be opened later. A dotted key adds only to tables made by dotted keys.
An array of tables grows at its end, and paths through it lead into its last table.
-/

set_option autoImplicit false
set_option relaxedAutoImplicit false

namespace RunningBalance.Toml

/-- What made a table. -/
inductive Opening
  | header
  /-- A header of a table inside it. -/
  | passage
  | dottedKey
  deriving DecidableEq, Repr

inductive Tree
  | leaf (value : Toml)
  | table (opening : Opening) (members : List (String × Tree))
  /-- An array of tables: those that are complete, and the last. -/
  | tables (before : List (List (String × Tree))) (last : List (String × Tree))

namespace Tree

abbrev Members :=
  List (String × Tree)

/-- The members with another value for a key that they have. -/
def replace (key : String) (tree : Tree) (members : Members) : Members :=
  members.map fun member ↦ if member.1 = key then (key, tree) else member

/-- A change of the table that a path of headers leads to; missing tables are made on the way. -/
def within (change : Members → Option Members) : List String → Members → Option Members
  | [], members => change members
  | key :: path, members =>
    match members.lookup key with
    | none =>
      (within change path []).map fun inner ↦ members ++ [(key, .table .passage inner)]
    | some (.table opening inner) =>
      (within change path inner).map fun inner ↦ replace key (.table opening inner) members
    | some (.tables before last) =>
      (within change path last).map fun last ↦ replace key (.tables before last) members
    | some (.leaf _) => none

/-- The table of a header, which must not have been made in any other way than as a passage. -/
def openTable (key : String) (members : Members) : Option Members :=
  match members.lookup key with
  | none => some (members ++ [(key, .table .header [])])
  | some (.table .passage inner) => some (replace key (.table .header inner) members)
  | some _ => none

/-- One more table in the array of a header. -/
def openItem (key : String) (members : Members) : Option Members :=
  match members.lookup key with
  | none => some (members ++ [(key, .tables [] [])])
  | some (.tables before last) => some (replace key (.tables (before ++ [last]) []) members)
  | some _ => none

/-- A value under a key that is still free, in the table that a dotted key leads to. The last table
on the way has to be made by dotted keys, and none of them by its own header. -/
def insert (key : String) (value : Toml) : List String → Members → Option Members
  | [], members =>
    if (members.lookup key).isSome then none else some (members ++ [(key, .leaf value)])
  | step :: path, members =>
    match members.lookup step with
    | none =>
      (insert key value path []).map fun inner ↦ members ++ [(step, .table .dottedKey inner)]
    | some (.table opening inner) =>
      if opening = .header ∨ opening = .passage ∧ path.isEmpty then none
      else (insert key value path inner).map fun inner ↦ replace step (.table opening inner) members
    | some (.tables before last) =>
      if path.isEmpty then none
      else (insert key value path last).map fun last ↦ replace step (.tables before last) members
    | some (.leaf _) => none

mutual

/-- The value of a finished tree. -/
def toToml : Tree → Toml
  | .leaf value => value
  | .table _ members => .table (membersToml members)
  | .tables before last => .array (itemsToml before ++ [.table (membersToml last)])

def membersToml : List (String × Tree) → List (String × Toml)
  | [] => []
  | (key, tree) :: members => (key, toToml tree) :: membersToml members

def itemsToml : List (List (String × Tree)) → List Toml
  | [] => []
  | members :: items => .table (membersToml members) :: itemsToml items

end

/-- The members of a table whose pairs are given in order, each with a dotted key. -/
def ofPairs? (pairs : List ((List String × String) × Toml)) : Option Members :=
  pairs.foldlM (fun members ((path, key), value) ↦ insert key value path members) []

end Tree

end RunningBalance.Toml
