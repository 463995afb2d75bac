import RunningBalance.Environment
import RunningBalance.Json.Reader
import RunningBalance.Settings.Basic
import RunningBalance.Text.Split

/-!
# Settings from the environment

Each setting has a variable of its own, and a variable that is not set leaves the usual value. Of
several faults the first in this order is reported: the timeout, the list of accounts, the decimals,
the output format, the log format, and then what `Settings.validate` finds.
-/

set_option autoImplicit false
set_option relaxedAutoImplicit false

namespace RunningBalance.Settings

def lowered (text : List Char) : List Char :=
  text.map Char.toLower

/-- Whether a flag is one of the words for yes. -/
def readFlag (text : String) : Bool :=
  ["1", "true", "yes", "on"].contains (String.ofList (lowered (Text.trim text.toList)))

/-- A number below a limit, or the usual one where none is given. -/
def readNumber (limit usual : Nat) (fault : Decimal.Fault → Fault) :
    Option String → Except Fault Nat
  | none => .ok usual
  | some text => (Decimal.bounded limit text.toList).mapError fault

/-- A format by its name in either case, or the usual one where none is given. -/
def readFormat (usual : Format) (fault : String → Fault) : Option String → Except Fault Format
  | none => .ok usual
  | some text =>
    let name := String.ofList (lowered text.toList)
    match Format.choices.lookup name with
    | some format => .ok format
    | none => .error (fault name)

/-- A text separated by commas, without blanks around the items and without empty items. -/
def splitAccounts (text : List Char) : List String :=
  (((Text.split ',' text).map Text.trim).filter fun item ↦ !item.isEmpty).map String.ofList

/-- The list of accounts: a JSON array of strings, or a text separated by commas. -/
def readAccounts (text : String) : Except Fault (List String) :=
  match Text.trim text.toList with
  | '[' :: rest =>
    (Json.decode (Json.readList Json.readString) (String.ofList ('[' :: rest))).mapError
      fun _ ↦ .accountList
  | items => .ok (splitAccounts items)

/-- The accounts of a variable that may not be set. -/
def accountsOf : Option String → Except Fault (List String)
  | none => .ok []
  | some text => readAccounts text

def isBlank (text : String) : Bool :=
  text.toList.all Text.isBlank

/-- The settings that an environment spells, before they are validated. -/
def spelled (environment : Environment) : Except Fault Settings := do
  let usual : Settings := {}
  let timeoutSeconds ←
    readNumber BackendSettings.timeoutLimit usual.backend.timeoutSeconds .timeout
      (environment "BACKEND_TIMEOUT_SECS")
  let accounts ← accountsOf (environment "BALANCE_ACCOUNTS")
  let decimals ←
    readNumber Display.decimalsLimit usual.display.decimals .decimals (environment "TOKEN_DECIMALS")
  let output ← readFormat usual.display.output .outputFormat (environment "OUTPUT_FORMAT")
  let logFormat ← readFormat usual.logFormat .logFormat (environment "LOG_FORMAT")
  pure
    { backend :=
        { url := (environment "BACKEND_URL").getD usual.backend.url
          token := (environment "BEARER_TOKEN").getD usual.backend.token
          tokenEnabled := ((environment "BEARER_TOKEN_ENABLED").map readFlag).getD
            usual.backend.tokenEnabled
          timeoutSeconds }
      accounts
      schedule := (environment "POLL_SCHEDULE").filter (!isBlank ·)
      display :=
        { decimals
          symbol := (environment "TOKEN_SYMBOL").getD usual.display.symbol
          output }
      metricsFile := environment "METRICS_FILE"
      logFormat }

def ofEnvironment (environment : Environment) : Except Fault Settings := do
  validate (← spelled environment)

end RunningBalance.Settings
