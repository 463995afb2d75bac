import RunningBalance.Account
import RunningBalance.Backend.Client
import RunningBalance.Backend.Obstacle
import RunningBalance.Backend.Status
import RunningBalance.Transfer.Decoder

/-!
# Fetching transfers

A client asks for the transfers of an account by one request, if that can be made. `Backend.fetchIn`
asks in any monad; `Backend.fetch` asks a backend, which is a function from URLs to responses or to
why there is none.
-/

set_option autoImplicit false
set_option relaxedAutoImplicit false

namespace RunningBalance

structure Response where
  status : Nat
  body : String
  deriving DecidableEq, Repr

/-- A request for the content at a URL. -/
structure Request where
  url : Url
  /-- The value of a header with the credentials of the backend's URL. -/
  credentials : Option String
  /-- The value of a header with the token. -/
  token : Option String
  deriving DecidableEq, Repr

/-- The values of all headers that authorize a request. -/
def Request.authorizations (request : Request) : List String :=
  request.credentials.toList ++ request.token.toList

/-- What answers at a URL, or why nothing does. -/
abbrev Backend :=
  Url → Except Backend.Outage Response

namespace Backend

/-- Why there are no transfers. -/
inductive Fault
  | unanswered (url : String) (obstacle : Obstacle)
  | status (code : Nat) (url : String)
  | undecodable (cause : String)
  deriving DecidableEq, Repr

def Fault.message : Fault → String
  | .unanswered url _ => "Request to " ++ url ++ " failed"
  | .status code url => "Backend returned error: " ++ Status.write code ++ " for " ++ url
  | .undecodable _ => "Failed to decode account transfers"

def Fault.causes : Fault → List String
  | .unanswered _ obstacle => obstacle.causes
  | .status _ _ => []
  | .undecodable cause => below "error decoding response body" [cause]

/-! ### Requests -/

/-- The text of the URL of an account's transfers. Slashes that end the backend's URL do not
count. -/
def accountUrl (url : String) (account : Account) : String :=
  String.ofList (Text.dropTrailing (· = '/') url.toList) ++ "/account/" ++ account.write ++ "/in"

/-- Whether a character may stand in a header: no control but the tab. -/
def isSendable (c : Char) : Bool :=
  c = '\t' || (0x20 ≤ c.toNat && c.toNat ≠ 0x7F)

/-- The value of a header, if it can be one. -/
def header (value : String) : Except Obstacle String :=
  if value.toList.all isSendable then .ok value else .error .unsendable

/-- The request for what is at a URL. There is none if the token cannot be sent. -/
def requestAt (settings : BackendSettings) (url : Url) : Except Obstacle Request := do
  let (url, credentials) := url.takeCredentials
  let bearer := settings.effectiveToken?.map fun token ↦ "Bearer " ++ token
  pure { url, credentials := ← credentials.mapM header, token := ← bearer.mapM header }

/-- The request for an account's transfers, if its URL can be read. -/
def request (client : BackendClient) (account : Account) : Except Obstacle Request :=
  match Url.read client.library.asciiName? (accountUrl client.settings.url account) with
  | .error fault => .error (.unreadable fault)
  | .ok url => requestAt client.settings url

/-! ### Responses -/

/-- The transfers in a response to a request for those of an account. -/
def read (client : BackendClient) (account : Account) (response : Response) :
    Except Fault Transfers :=
  if Status.isSuccess response.status then
    (Transfers.ofText response.body).mapError fun _ ↦
      .undecodable (client.library.wording response.body)
  else .error (.status response.status (accountUrl client.settings.url account))

/-- What comes of asking for an account's transfers. -/
structure Exchange where
  outcome : Except Fault Transfers
  /-- The requests that were made. -/
  requests : List Request

/-- What comes of a request that was made. -/
def conclude (client : BackendClient) (account : Account) (request : Request) :
    Except Outage Response → Exchange
  | .error outage =>
    { outcome := .error (.unanswered (accountUrl client.settings.url account)
        (.unreached request.url outage))
      requests := [request] }
  | .ok response => { outcome := read client account response, requests := [request] }

def fetchIn {m : Type → Type} [Monad m] (ask : Request → m (Except Outage Response))
    (client : BackendClient) (account : Account) : m Exchange :=
  match request client account with
  | .error obstacle =>
    pure
      { outcome := .error (.unanswered (accountUrl client.settings.url account) obstacle)
        requests := [] }
  | .ok request => do
    let answer ← ask request
    pure (conclude client account request answer)

/-- What comes of asking a backend. -/
@[irreducible]
def fetch (client : BackendClient) (backend : Backend) (account : Account) : Exchange :=
  Id.run (fetchIn (fun request ↦ pure (backend request.url)) client account)

end Backend

end RunningBalance
