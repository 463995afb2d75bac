import RunningBalance.Json.Basic
import RunningBalance.Json.Token

/-!
# Reading JSON

A text is read token by token with the open arrays and objects kept on a stack, so that any depth of
nesting can be read. `Reading.ofText` always finds a tree: where the text stops being JSON the open
parts end in a torn one. `decode` applies a decoder to the tree; the first fault in the order of the
text decides, and a text that goes on after its value is refused last.
-/

set_option autoImplicit false
set_option relaxedAutoImplicit false

namespace RunningBalance.Json

/-- An array or object that waits for a part of it: what it holds already, the latest first, and
the key of the part. -/
inductive Frame
  | items (before : List Draft)
  | member (before : List (Option String × Draft)) (key : Option String)

/-- The container of a frame, ended with the given part. -/
def Frame.close : Frame → Draft → Draft
  | .items before, last => .array (last :: before).reverse
  | .member before key, last => .object ((key, last) :: before).reverse

/-- What the tokens read so far amount to. -/
inductive State
  /-- A value comes next. -/
  | atValue (stack : List Frame)
  /-- An array has been opened. -/
  | atFirstItem (stack : List Frame)
  | afterItem (before : List Draft) (stack : List Frame)
  /-- An object has been opened. -/
  | atFirstKey (stack : List Frame)
  | atKey (before : List (Option String × Draft)) (stack : List Frame)
  | atColon (before : List (Option String × Draft)) (key : Option String) (stack : List Frame)
  | afterMember (before : List (Option String × Draft)) (stack : List Frame)
  | complete (tree : Draft)
  /-- A value is complete, but the text goes on. -/
  | overrun (tree : Draft)
  | broken (tree : Draft)

namespace State

/-- A value is complete and becomes a part of the innermost open container. -/
def settle (value : Draft) : List Frame → State
  | [] => .complete value
  | .items before :: stack => .afterItem (value :: before) stack
  | .member before key :: stack => .afterMember ((key, value) :: before) stack

/-- The open containers, each ended with the one inside it. -/
def closeAll (last : Draft) (stack : List Frame) : Draft :=
  stack.foldl (fun part frame ↦ frame.close part) last

/-- The tree of what has been read, torn where a part is still to come. -/
def tree : State → Draft
  | .atValue stack => closeAll .torn stack
  | .atFirstItem stack => closeAll (.array [.torn]) stack
  | .afterItem before stack => closeAll (.array (before.reverse ++ [.torn])) stack
  | .atFirstKey stack => closeAll (.object [(none, .torn)]) stack
  | .atKey before stack => closeAll (.object (before.reverse ++ [(none, .torn)])) stack
  | .atColon before key stack => closeAll (.object (before.reverse ++ [(key, .torn)])) stack
  | .afterMember before stack => closeAll (.object (before.reverse ++ [(none, .torn)])) stack
  | .complete tree => tree
  | .overrun tree => tree
  | .broken tree => tree

/-- The token is the start of a value inside the open containers. -/
def start (stack : List Frame) : Token → State
  | .null => settle .null stack
  | .bool value => settle (.bool value) stack
  | .integer value => settle (.integer value) stack
  | .decimal negative mantissa exponent => settle (.decimal negative mantissa exponent) stack
  | .string value => settle (.string value) stack
  | .openArray => .atFirstItem stack
  | .openObject => .atFirstKey stack
  | _ => .broken (closeAll .torn stack)

def step : State → Token → State
  | .atValue stack, token => start stack token
  | .atFirstItem stack, .closeArray => settle (.array []) stack
  | .atFirstItem stack, token => start (.items [] :: stack) token
  | .afterItem before stack, .comma => .atValue (.items before :: stack)
  | .afterItem before stack, .closeArray => settle (.array before.reverse) stack
  | .atFirstKey stack, .string key => .atColon [] key stack
  | .atFirstKey stack, .closeObject => settle (.object []) stack
  | .atKey before stack, .string key => .atColon before key stack
  | .atColon before key stack, .colon => .atValue (.member before key :: stack)
  | .afterMember before stack, .comma => .atKey before stack
  | .afterMember before stack, .closeObject => settle (.object before.reverse) stack
  | .complete tree, _ => .overrun tree
  | .overrun tree, _ => .overrun tree
  | state, _ => .broken state.tree

def isComplete : State → Bool
  | .complete _ => true
  | _ => false

end State

/-- What reading a text finds: its tree, and whether the text is one whole value. -/
structure Reading where
  tree : Draft
  complete : Bool

def Reading.ofTokens (tokens : List Token) : Reading :=
  let state := tokens.foldl State.step (.atValue [])
  { tree := state.tree, complete := state.isComplete }

def Reading.ofText (text : String) : Reading :=
  .ofTokens (Token.scan text.toList)

/-- The value that a text encodes, by a decoder of its tree. -/
def decode {α : Type} (decoder : Draft → Except Fault α) (text : String) : Except Fault α := do
  let reading := Reading.ofText text
  let value ← decoder reading.tree
  if reading.complete then pure value else throw .malformed

end RunningBalance.Json
