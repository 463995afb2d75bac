import RunningBalance.Backend.Settings
import RunningBalance.Url.Host

/-!
# Clients

A client makes the requests to a backend, by its settings and with the help of a library. What the
library decides by the tables of Unicode and what it says in its own words is given as functions.
-/

set_option autoImplicit false
set_option relaxedAutoImplicit false

namespace RunningBalance

namespace Backend

structure Library where
  /-- The name of a host in ASCII, if it has one. -/
  asciiName? : String → Option String
  /-- Why a body does not encode transfers. -/
  wording : String → String

/-- A library that knows names in ASCII only, and says the same of every body. -/
def Library.plain : Library where
  asciiName? := Url.Host.plainName?
  wording _ := "the body does not encode transfers"

end Backend

structure BackendClient where
  settings : BackendSettings
  library : Backend.Library

end RunningBalance
