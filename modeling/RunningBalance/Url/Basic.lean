import RunningBalance.Url.Credentials
import RunningBalance.Url.Host
import RunningBalance.Url.Path

/-!
# URLs

The URLs of web servers: which host to ask, which of its services, what for, and on whose behalf.
-/

set_option autoImplicit false
set_option relaxedAutoImplicit false

namespace RunningBalance

namespace Url

inductive Scheme
  | plain
  | encrypted
  deriving DecidableEq, Repr

namespace Scheme

def name : Scheme → String
  | .plain => "http"
  | .encrypted => "https"

/-- The number of the service where none is given. -/
def usualService : Scheme → Nat
  | .plain => 80
  | .encrypted => 443

end Scheme

end Url

structure Url where
  scheme : Url.Scheme
  credentials : Url.Credentials := {}
  host : Url.Host
  /-- The number of the service, if it is not the usual one. -/
  unusualService : Option Nat
  /-- The steps of the path, encoded. -/
  path : List (List Char)
  query : Option (List Char)
  fragment : Option (List Char)
  deriving DecidableEq, Repr

namespace Url

def service (url : Url) : Nat :=
  url.unusualService.getD url.scheme.usualService

/-- A part of a URL that follows a mark, if there is one. -/
def writePart (mark : Char) (part : Option (List Char)) : List Char :=
  part.elim [] (mark :: ·)

/-- The host, with its service if that is not the usual one. -/
def authority (url : Url) : String :=
  url.host.write ++ String.ofList (writePart ':' (url.unusualService.map Decimal.ofNat))

/-- What the service is asked for: path and query. -/
def target (url : Url) : String :=
  String.ofList (Path.write url.path ++ writePart '?' url.query)

def write (url : Url) : String :=
  url.scheme.name ++ "://" ++ String.ofList url.credentials.write ++ url.authority ++ url.target ++
    String.ofList (writePart '#' url.fragment)

/-- The URL to ask for, and the value of a header with its credentials if they go there. -/
def takeCredentials (url : Url) : Url × Option String :=
  match url.credentials.basic? with
  | some value => ({ url with credentials := {} }, some value)
  | none => (url, none)

end Url

end RunningBalance
