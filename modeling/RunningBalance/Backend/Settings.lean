import RunningBalance.Decimal
import RunningBalance.Text.Quoted

/-!
# Settings of the backend

Where the backend is, how to authenticate against it, and how long to wait for it. The token is
never shown, not even by its length.
-/

set_option autoImplicit false
set_option relaxedAutoImplicit false

namespace RunningBalance

structure BackendSettings where
  url : String := "http://127.0.0.1:8080/erc20/api"
  token : String := ""
  tokenEnabled : Bool := false
  timeoutSeconds : Nat := 30
  deriving DecidableEq, Repr

namespace BackendSettings

/-- The token to send: the one that is set, if sending one is enabled. -/
def effectiveToken? (settings : BackendSettings) : Option String :=
  if settings.tokenEnabled ∧ settings.token ≠ "" then some settings.token else none

/-- The timeout has 64 bits. -/
def timeoutLimit : Nat :=
  Nat.pow 2 64

/-- What stands for a token that must not be shown. -/
def redacted (token : String) : String :=
  if token = "" then "" else "<redacted>"

/-- The settings in one line, without the token. -/
def describe (settings : BackendSettings) : String :=
  "BackendSettings \x7b backend_url: " ++ Text.quoted settings.url ++ ", bearer_token: " ++
    Text.quoted (redacted settings.token) ++ ", enable_bearer_token: " ++
    (if settings.tokenEnabled then "true" else "false") ++ ", request_timeout_secs: " ++
    String.ofList (Decimal.ofNat settings.timeoutSeconds) ++ " \x7d"

end BackendSettings

end RunningBalance
