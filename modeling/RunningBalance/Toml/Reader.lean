import RunningBalance.Text.Blank
import RunningBalance.Toml.DateTime
import RunningBalance.Toml.Number
import RunningBalance.Toml.Quotation
import RunningBalance.Toml.Tree

/-!
# Reading TOML

The lines of a document are read in order, and each changes the tree of tables. Line ends are made
uniform first, so that a carriage return that is left stands where none may.

Arrays and inline tables lie inside each other to a limited depth, and a dotted key has a limited
number of parts. The readers of values and lines are told how many steps they may make. Twice the
length of the text is always enough, since of two steps in a row at least one takes a character.
-/

set_option autoImplicit false
set_option relaxedAutoImplicit false

namespace RunningBalance.Toml

open Quotation (isBlank isPlain)

/-! ### Blanks -/

/-- The text with every line ended by a line feed alone. -/
def uniform : List Char → List Char
  | '\r' :: '\n' :: rest => '\n' :: uniform rest
  | c :: rest => c :: uniform rest
  | [] => []

def dropBlanks (text : List Char) : List Char :=
  text.dropWhile isBlank

/-- The text after blanks, line ends and comments; a comment must not hold control characters. -/
def dropGap? (inComment : Bool) : List Char → Option (List Char)
  | [] => some []
  | c :: rest =>
    if c = '\n' then dropGap? false rest
    else if inComment then if isPlain c then dropGap? true rest else none
    else if isBlank c then dropGap? false rest
    else if c = '#' then dropGap? true rest
    else some (c :: rest)

/-- Whether only blanks and a comment are left on the line. -/
def atLineEnd (text : List Char) : Bool :=
  match dropBlanks text with
  | [] => true
  | c :: _ => c = '\n' || c = '#'

/-- The text after a character, if it starts with that. -/
def afterChar? (expected : Char) : List Char → Option (List Char)
  | [] => none
  | c :: rest => if c = expected then some rest else none

/-! ### Keys -/

def isKeyChar (c : Char) : Bool :=
  c.isAlphanum || c = '-' || c = '_'

/-- A key without dots: a string on one line, or letters and digits. -/
def readKey? (text : List Char) : Option (String × List Char) :=
  match text with
  | [] => none
  | c :: _ =>
    if c = '"' ∨ c = '\'' then Quotation.readShort? text
    else if isKeyChar c then
      some (String.ofList (text.takeWhile isKeyChar), text.dropWhile isKeyChar)
    else none

/-- How deep values may lie in each other, and how many parts a dotted key may have. -/
def nestingLimit : Nat :=
  79

/-- A dotted key of at most so many parts: the path to a table, and the key in it. -/
def readParts? : Nat → List Char → Option ((List String × String) × List Char)
  | 0, _ => none
  | parts + 1, text => do
    let (key, rest) ← readKey? (dropBlanks text)
    match dropBlanks rest with
    | '.' :: rest =>
      let ((path, last), rest) ← readParts? parts rest
      pure ((key :: path, last), rest)
    | rest => pure (([], key), rest)

/-- A dotted key. -/
def readPath? (text : List Char) : Option ((List String × String) × List Char) :=
  readParts? nestingLimit text

/-! ### Values -/

/-- The characters of numbers, dates and names. -/
def isScalarChar (c : Char) : Bool :=
  c.isAlphanum || c = '+' || c = '-' || c = '_' || c = '.' || c = ':'

/-- A value that is written without brackets and quotes. -/
def ofScalar? (text : List Char) : Option Toml :=
  if text = ['t', 'r', 'u', 'e'] then some (.boolean true)
  else if text = ['f', 'a', 'l', 's', 'e'] then some (.boolean false)
  else if DateTime.isDateTime text then some (.dateTime (String.ofList text))
  else if Number.isFloat text then some (.float (String.ofList text))
  else (Number.integer? text).map .integer

/-- The characters of a scalar, and what follows them. A blank may stand between a date and a time.
-/
def scalarText (text : List Char) : List Char × List Char :=
  let first := text.takeWhile isScalarChar
  let rest := text.dropWhile isScalarChar
  match rest with
  | ' ' :: c :: _ =>
    if DateTime.isDate first ∧ c.isDigit then
      let later := rest.drop 1
      (first ++ ' ' :: later.takeWhile isScalarChar, later.dropWhile isScalarChar)
    else (first, rest)
  | _ => (first, rest)

mutual

/-- A value at the start of a text. The arrays and inline tables in it lie at most `depth` deep. -/
def readValue? (depth : Nat) : Nat → List Char → Option (Toml × List Char)
  | 0, _ => none
  | steps + 1, text =>
    match text, depth with
    | '"' :: _, _ => (Quotation.readString? text).map fun (value, rest) ↦ (.string value, rest)
    | '\'' :: _, _ => (Quotation.readString? text).map fun (value, rest) ↦ (.string value, rest)
    | '[' :: _, 0 => none
    | '\x7b' :: _, 0 => none
    | '[' :: rest, depth + 1 =>
      (readItems? depth steps rest).map fun (items, rest) ↦ (.array items, rest)
    | '\x7b' :: rest, depth + 1 => do
      let (pairs, rest) ← readPairs? depth steps true rest
      pure (.table (Tree.membersToml (← Tree.ofPairs? pairs)), rest)
    | _, _ => do
      let (scalar, rest) := scalarText text
      pure (← ofScalar? scalar, rest)

/-- The items of an array up to its closing bracket; the last may have a comma after it. -/
def readItems? (depth : Nat) : Nat → List Char → Option (List Toml × List Char)
  | 0, _ => none
  | steps + 1, text => do
    match ← dropGap? false text with
    | ']' :: rest => pure ([], rest)
    | text =>
      let (item, rest) ← readValue? depth steps text
      match ← dropGap? false rest with
      | ',' :: rest =>
        let (items, rest) ← readItems? depth steps rest
        pure (item :: items, rest)
      | ']' :: rest => pure ([item], rest)
      | _ => none

/-- The pairs of an inline table up to its closing brace, all on one line. The table may be empty at
its start, but not after a comma. -/
def readPairs? (depth : Nat) :
    Nat → Bool → List Char → Option (List ((List String × String) × Toml) × List Char)
  | 0, _, _ => none
  | steps + 1, mayEnd, text =>
    match mayEnd, dropBlanks text with
    | true, '\x7d' :: rest => some ([], rest)
    | _, text => do
      let (path, rest) ← readPath? text
      let rest ← afterChar? '=' rest
      let (value, rest) ← readValue? depth steps (dropBlanks rest)
      match dropBlanks rest with
      | ',' :: rest =>
        let (pairs, rest) ← readPairs? depth steps false rest
        pure ((path, value) :: pairs, rest)
      | '\x7d' :: rest => pure ([(path, value)], rest)
      | _ => none

end

/-! ### Documents -/

/-- A line of a document that is not empty. -/
inductive Line
  | pair (path : List String) (key : String) (value : Toml)
  | tableHeader (path : List String) (key : String)
  | itemHeader (path : List String) (key : String)

/-- The path of a header and what follows its closing brackets. -/
def readHeader? (closing : Nat) (text : List Char) :
    Option ((List String × String) × List Char) := do
  let (path, rest) ← readPath? text
  pure (path, ← Text.after? (List.replicate closing ']') rest)

/-- A line at the start of a text. -/
def readLine? (steps : Nat) (text : List Char) : Option (Line × List Char) :=
  match text with
  | '[' :: '[' :: rest => do
    let ((path, key), rest) ← readHeader? 2 rest
    pure (.itemHeader path key, rest)
  | '[' :: rest => do
    let ((path, key), rest) ← readHeader? 1 rest
    pure (.tableHeader path key, rest)
  | _ => do
    let ((path, key), rest) ← readPath? text
    let rest ← afterChar? '=' rest
    let (value, rest) ← readValue? nestingLimit steps (dropBlanks rest)
    pure (.pair path key value, rest)

/-- All lines of a text. -/
def readLines? : Nat → List Char → Option (List Line)
  | 0, _ => none
  | steps + 1, text => do
    match ← dropGap? false text with
    | [] => pure []
    | text =>
      let (line, rest) ← readLine? steps text
      if atLineEnd rest then
        let lines ← readLines? steps rest
        pure (line :: lines)
      else none

/-- The tables after a line, and the path of the table that the pairs after it belong to. -/
def Line.apply? (current : List String) (members : Tree.Members) :
    Line → Option (List String × Tree.Members)
  | .pair path key value =>
    (Tree.within (Tree.insert key value path) current members).map (current, ·)
  | .tableHeader path key =>
    (Tree.within (Tree.openTable key) path members).map (path ++ [key], ·)
  | .itemHeader path key =>
    (Tree.within (Tree.openItem key) path members).map (path ++ [key], ·)

/-- The text without a byte order mark. -/
def dropMark (text : List Char) : List Char :=
  match text with
  | c :: rest => if c.toNat = 0xFEFF then rest else text
  | [] => []

/-- The members of the table that a document describes, if it is a TOML document. -/
def read? (text : String) : Option (List (String × Toml)) := do
  let text := uniform (dropMark text.toList)
  let lines ← readLines? (2 * text.length + 2) text
  let (_, members) ←
    lines.foldlM (fun (current, members) line ↦ Line.apply? current members line) ([], [])
  pure (Tree.membersToml members)

end RunningBalance.Toml
