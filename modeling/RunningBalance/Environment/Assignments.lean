import RunningBalance.Environment
import RunningBalance.Text.Alphanumeric
import RunningBalance.Text.Blank
import RunningBalance.Text.Split

/-!
# Files of assignments

A file may set variables, one in a line: `NAME=value`, perhaps after the word `export`. A value may
have quoted parts and may use variables that are already set. What is set already stays, and reading
ends at the first line that is no assignment, comment or empty line; what stood before it holds. A
variable that would be set to a value that it cannot have makes the whole file useless.
-/

set_option autoImplicit false
set_option relaxedAutoImplicit false

namespace RunningBalance.Environment

namespace Value

/-- Where in a value the next character stands. `quoted` says whether double quotes are open. -/
inductive Place
  | plain (quoted : Bool)
  | afterBackslash (quoted : Bool)
  /-- Inside single quotes. -/
  | literal
  /-- After a dollar sign and some letters and numerals, the latest first. -/
  | name (quoted : Bool) (letters : List Char)
  /-- After a dollar sign with an opening brace. -/
  | braced (quoted : Bool) (letters : List Char)
  /-- After a blank, where only a comment may follow. -/
  | ending

/-- What a character stands for after a backslash. -/
def escaped? (c : Char) : Option Char :=
  if c = 'n' then some '\n'
  else if c = '\\' ∨ c = '\'' ∨ c = '"' ∨ c = '$' ∨ c = ' ' then some c
  else none

def isBlank (c : Char) : Bool :=
  c = ' ' || c = '\t'

/-- What a value amounts to from a place in it, if it is well formed. The character that ends a name
after a dollar sign belongs to the value as it is. -/
def scan (valueOf : List Char → List Char) : Place → List Char → Option (List Char)
  | .plain false, [] => some []
  | .afterBackslash false, [] => some []
  | .name false letters, [] => some (valueOf letters.reverse)
  | .ending, [] => some []
  | _, [] => none
  | .ending, c :: rest =>
    if isBlank c then scan valueOf .ending rest else if c = '#' then some [] else none
  | .afterBackslash quoted, c :: rest =>
    match escaped? c with
    | some meant => (scan valueOf (.plain quoted) rest).map (meant :: ·)
    | none => none
  | .literal, c :: rest =>
    if c = '\'' then scan valueOf (.plain false) rest
    else (scan valueOf .literal rest).map (c :: ·)
  | .name quoted letters, c :: rest =>
    if Text.isAlphanumeric c then scan valueOf (.name quoted (c :: letters)) rest
    else if c = '\x7b' ∧ letters.isEmpty then scan valueOf (.braced quoted []) rest
    else if c = '$' then
      (scan valueOf (.name quoted []) rest).map (valueOf letters.reverse ++ ·)
    else (scan valueOf (.plain quoted) rest).map (valueOf letters.reverse ++ c :: ·)
  | .braced quoted letters, c :: rest =>
    if c = '\x7d' then (scan valueOf (.plain quoted) rest).map (valueOf letters.reverse ++ ·)
    else scan valueOf (.braced quoted (c :: letters)) rest
  | .plain quoted, c :: rest =>
    if c = '$' then scan valueOf (.name quoted []) rest
    else if c = '\\' then scan valueOf (.afterBackslash quoted) rest
    else if c = '"' then scan valueOf (.plain !quoted) rest
    else if !quoted ∧ c = '\'' then scan valueOf .literal rest
    else if !quoted ∧ isBlank c then scan valueOf .ending rest
    else (scan valueOf (.plain quoted) rest).map (c :: ·)

end Value

/-! ### Lines -/

def startsName (c : Char) : Bool :=
  c.isAlpha || c = '_'

def inName (c : Char) : Bool :=
  c.isAlphanum || c = '_' || c = '.'

/-- A name, and what follows it after blanks. -/
def readName? (line : List Char) : Option (List Char × List Char) :=
  match line with
  | c :: _ =>
    if startsName c then some (line.takeWhile inName, Text.trimStart (line.dropWhile inName))
    else none
  | [] => none

/-- The name of an assignment and what follows its equals sign. The word `export` may stand before
the name, and is itself a name if an equals sign follows it. -/
def readTarget? (line : List Char) : Option (List Char × List Char) := do
  match ← readName? line with
  | (name, '=' :: rest) => pure (name, rest)
  | (name, rest) =>
    guard (name = "export".toList)
    match ← readName? rest with
    | (name, '=' :: rest) => pure (name, rest)
    | _ => none

/-- Whether the rest of a line says nothing. -/
def isRemark : List Char → Bool
  | [] => true
  | c :: _ => c = '#'

/-- What a line says. -/
inductive Line
  | remark
  | assignment (name value : String)

/-- What follows a text and an equals sign in an entry `NAME=value` of the environment. That is the
value if the text is a name, but the text may also reach into the value. -/
def valueAfter? (environment : Environment) (text : List Char) : Option (List Char) := do
  let value ← environment (String.ofList (text.takeWhile (· ≠ '=')))
  match text.dropWhile (· ≠ '=') with
  | [] => pure value.toList
  | _ :: start => Text.after? (start ++ ['=']) value.toList

theorem valueAfter?_of_not_mem (environment : Environment) {text : List Char} (h : '=' ∉ text) :
    environment.valueAfter? text = (environment (String.ofList text)).map String.toList := by
  have all : ∀ c ∈ text, decide (c ≠ '=') = true := fun c mem ↦
    decide_eq_true fun eq ↦ h (eq ▸ mem)
  have whole : (text ++ []).takeWhile (· ≠ '=') = text ++ [] := List.takeWhile_append_of_pos all
  have nothing : (text ++ []).dropWhile (· ≠ '=') = [] := List.dropWhile_append_of_pos all
  rw [List.append_nil] at whole nothing
  rw [valueAfter?, whole, nothing]
  cases environment (String.ofList text) <;> rfl

/-- What a name inside a value stands for; what is not set is empty. -/
def substitute (environment : Environment) (name : List Char) : List Char :=
  (environment.valueAfter? name).getD []

/-- A line of a file, read where an environment holds. -/
def readLine? (environment : Environment) (line : List Char) : Option Line := do
  let line := Text.trim line
  if isRemark line then pure .remark
  else
    let (name, rest) ← readTarget? line
    let value := Text.trimStart rest
    if isRemark value then pure (.assignment (String.ofList name) "")
    else
      let value ← Value.scan (substitute environment) (.plain false) value
      pure (.assignment (String.ofList name) (String.ofList value))

/-- The environment after the lines up to the first that is malformed, if every variable can have
its value. -/
def addLines? (environment : Environment) : List (List Char) → Option Environment
  | [] => some environment
  | line :: lines =>
    match readLine? environment line with
    | some .remark => addLines? environment lines
    | some (.assignment name value) =>
      match environment.add? name value with
      | some environment => addLines? environment lines
      | none => none
    | none => some environment

/-- The environment after a file of assignments, which may not be there. -/
def addFile? (environment : Environment) : Option String → Option Environment
  | none => some environment
  | some content => environment.addLines? (Text.split '\n' content.toList)

end RunningBalance.Environment
