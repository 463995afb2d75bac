import RunningBalance.Settings.Basic
import RunningBalance.Toml.Reader

/-!
# Settings from a file

A settings file is a TOML document. What it leaves out has its usual value, unknown keys have no
effect, and a value of the wrong type makes the whole file malformed. A group of settings may also
be an array of their values in order, or a date or time, which leaves all of them out.
-/

set_option autoImplicit false
set_option relaxedAutoImplicit false

namespace RunningBalance.Settings.File

variable {α : Type}

def text? : Toml → Option String
  | .string value => some value
  | _ => none

def flag? : Toml → Option Bool
  | .boolean value => some value
  | _ => none

/-- A number below a limit. -/
def natural? (limit : Nat) : Toml → Option Nat
  | .integer value => if 0 ≤ value ∧ value < limit then some value.toNat else none
  | _ => none

def texts? : Toml → Option (List String)
  | .array items => items.mapM text?
  | _ => none

def isEmpty : Toml → Bool
  | .array items => items.isEmpty
  | .table members => members.isEmpty
  | _ => false

/-- A format by its name, or by a table that has its name as the only key and nothing under it. -/
def format? : Toml → Option Format
  | .string name => Format.choices.lookup name
  | .table [(name, nothing)] => if isEmpty nothing then Format.choices.lookup name else none
  | _ => none

/-- A value that is left out is the usual one. -/
def orUsual (usual : α) (read : Toml → Option α) : Option Toml → Option α
  | none => some usual
  | some value => read value

/-- A text that may be left out. -/
def optionalText? (value : Option Toml) : Option (Option String) :=
  orUsual none (fun text ↦ (text? text).map some) value

/-- Whether the value can hold a group of settings. -/
def isGroup : Toml → Bool
  | .array _ => true
  | .table _ => true
  | .dateTime _ => true
  | _ => false

/-- A setting of a group, by its place and its key. -/
def setting? (place : Nat) (key : String) : Toml → Option Toml
  | .array items => items[place]?
  | .table members => members.lookup key
  | _ => none

def backend? (group : Toml) : Option BackendSettings := do
  let usual : BackendSettings := {}
  guard (isGroup group)
  let url ← orUsual usual.url text? (setting? 0 "backend_url" group)
  let token ← orUsual usual.token text? (setting? 1 "bearer_token" group)
  let tokenEnabled ← orUsual usual.tokenEnabled flag? (setting? 2 "enable_bearer_token" group)
  let timeoutSeconds ←
    orUsual usual.timeoutSeconds (natural? BackendSettings.timeoutLimit)
      (setting? 3 "request_timeout_secs" group)
  pure { url, token, tokenEnabled, timeoutSeconds }

def display? (group : Toml) : Option Display := do
  let usual : Display := {}
  guard (isGroup group)
  let decimals ←
    orUsual usual.decimals (natural? Display.decimalsLimit) (setting? 0 "token_decimals" group)
  let symbol ← orUsual usual.symbol text? (setting? 1 "token_symbol" group)
  let output ← orUsual usual.output format? (setting? 2 "output" group)
  pure { decimals, symbol, output }

/-- The settings that the table of a document spells, before they are validated. -/
def spelled? (members : List (String × Toml)) : Option Settings := do
  let usual : Settings := {}
  let backend ← orUsual usual.backend backend? (members.lookup "backend")
  let accounts ← orUsual usual.accounts texts? (members.lookup "accounts")
  let schedule ← optionalText? (members.lookup "poll_schedule")
  let display ← orUsual usual.display display? (members.lookup "display")
  let metricsFile ← optionalText? (members.lookup "metrics_file")
  let logFormat ← orUsual usual.logFormat format? (members.lookup "log_format")
  pure { backend, accounts, schedule, display, metricsFile, logFormat }

end File

/-- The settings in the table of a document. -/
def ofTable (path : String) (members : List (String × Toml)) : Except Fault Settings :=
  match File.spelled? members with
  | some settings => validate settings
  | none => .error (.malformed path)

/-- The settings in a file, which may not be there. -/
def ofFile (path : String) : Option String → Except Fault Settings
  | none => .error (.unreadable path)
  | some content =>
    match Toml.read? content with
    | some members => ofTable path members
    | none => .error (.malformed path)

end RunningBalance.Settings
