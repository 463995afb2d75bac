/-!
# JSON trees

`Json` is a value as it is written: the members of an object are a list, in order and with
repetitions. `Json.Draft` is what reading a text finds. A draft may end early, where the text stops
being JSON, and its strings may have no text; every value is a draft (`Json.draft`).
-/

set_option autoImplicit false
set_option relaxedAutoImplicit false

namespace RunningBalance

/-- A number is an integer, or else a decimal fraction: a sign, a mantissa and a power of ten. -/
inductive Json
  | null
  | bool (value : Bool)
  | integer (value : Int)
  | decimal (negative : Bool) (mantissa : Nat) (exponent : Int)
  | string (value : String)
  | array (items : List Json)
  | object (members : List (String × Json))

namespace Json

/-- What reading finds. A string whose escapes leave half of a surrogate pair alone has no text. The
draft is `torn` where the text stops being JSON; nothing follows a torn part. -/
inductive Draft
  | null
  | bool (value : Bool)
  | integer (value : Int)
  | decimal (negative : Bool) (mantissa : Nat) (exponent : Int)
  | string (value : Option String)
  | array (items : List Draft)
  | object (members : List (Option String × Draft))
  | torn

mutual

/-- The value as a draft. -/
def draft : Json → Draft
  | .null => .null
  | .bool value => .bool value
  | .integer value => .integer value
  | .decimal negative mantissa exponent => .decimal negative mantissa exponent
  | .string value => .string (some value)
  | .array items => .array (draftItems items)
  | .object members => .object (draftMembers members)

def draftItems : List Json → List Draft
  | [] => []
  | item :: items => draft item :: draftItems items

def draftMembers : List (String × Json) → List (Option String × Draft)
  | [] => []
  | (key, value) :: members => (some key, draft value) :: draftMembers members

end

namespace Draft

mutual

/-- Whether no part of the draft is torn. -/
def isWhole : Draft → Bool
  | .array items => itemsWhole items
  | .object members => membersWhole members
  | .torn => false
  | _ => true

def itemsWhole : List Draft → Bool
  | [] => true
  | item :: items => isWhole item && itemsWhole items

def membersWhole : List (Option String × Draft) → Bool
  | [] => true
  | (_, value) :: members => isWhole value && membersWhole members

end

end Draft

/-- Why a draft is not the value asked for. -/
inductive Fault
  /-- A part has another shape, or the text is not JSON. -/
  | malformed
  | missing (field : String)
  | duplicate (field : String)
  deriving DecidableEq, Repr

/-- The wording of the faults that name a field. -/
def Fault.message? : Fault → Option String
  | .malformed => none
  | .missing field => some ("missing field `" ++ field ++ "`")
  | .duplicate field => some ("duplicate field `" ++ field ++ "`")

end Json

end RunningBalance
