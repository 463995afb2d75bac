import RunningBalance.Backend.Settings
import RunningBalance.Display
import RunningBalance.Ledger.Fault

/-!
# Settings

What the program is told: the backend to ask, the accounts to follow, when to ask again, how to show
a ledger, and where to leave metrics. Everything but the accounts has a usual value.
-/

set_option autoImplicit false
set_option relaxedAutoImplicit false

namespace RunningBalance

structure Settings where
  backend : BackendSettings := {}
  /-- The accounts to follow, as they were written. -/
  accounts : List String := []
  /-- When to ask the backend again; there is one round only if this is not set. -/
  schedule : Option String := none
  display : Display := {}
  metricsFile : Option String := none
  logFormat : Format := .text
  deriving DecidableEq, Repr

namespace Settings

/-- Why the program cannot be set up. -/
inductive Fault
  | timeout (cause : Decimal.Fault)
  | accountList
  | decimals (cause : Decimal.Fault)
  | outputFormat (name : String)
  | logFormat (name : String)
  | scheme (url : String)
  | noAccounts
  | account (fault : Ledger.Fault)
  | unreadable (path : String)
  | malformed (path : String)
  /-- The file of assignments gives a variable a value that it cannot have. -/
  | impossibleValue
  deriving DecidableEq, Repr

namespace Fault

def message : Fault → String
  | .timeout _ => "BACKEND_TIMEOUT_SECS must be a number of seconds"
  | .accountList => "Failed to parse BALANCE_ACCOUNTS JSON"
  | .decimals _ => "TOKEN_DECIMALS must be a non-negative integer"
  | .outputFormat name => "Unknown output format: " ++ name
  | .logFormat name => "Unknown log format: " ++ name
  | .scheme url => "Backend URL must be http(s): " ++ Text.quoted url
  | .noAccounts => "No accounts configured (set BALANCE_ACCOUNTS)"
  | .account fault => fault.message
  | .unreadable path => "Failed to read config " ++ path
  | .malformed path => "Failed to parse config " ++ path
  | .impossibleValue => "Failed to set a variable"

/-- What is wrong with a number. -/
def cause? : Fault → Option Decimal.Fault
  | .timeout cause => some cause
  | .decimals cause => some cause
  | _ => none

end Fault

/-- The accounts to follow, in order and with repetitions. -/
def addresses (settings : Settings) : Except Ledger.Fault (List Account) :=
  settings.accounts.mapM Account.ofText

/-- The beginnings that a backend URL may have. -/
def schemes : List String :=
  ["http://", "https://"]

def hasScheme (url : String) : Bool :=
  schemes.any fun scheme ↦ (Text.after? scheme.toList url.toList).isSome

/-- The settings themselves, if the program can run with them. -/
def validate (settings : Settings) : Except Fault Settings :=
  if !hasScheme settings.backend.url then .error (.scheme settings.backend.url)
  else if settings.accounts.isEmpty then .error .noAccounts
  else
    match settings.addresses with
    | .ok _ => .ok settings
    | .error fault => .error (.account fault)

end Settings

end RunningBalance
