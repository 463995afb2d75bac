import RunningBalance.Url.Reader

/-!
# What keeps a response away

A request may be impossible, or nothing answers it. The causes of a failure go from the outermost
to the innermost, and each is worded with the one below it.
-/

set_option autoImplicit false
set_option relaxedAutoImplicit false

namespace RunningBalance.Backend

/-- Why nothing answers. -/
inductive Outage
  /-- The name of the host leads nowhere. -/
  | name (cause : String)
  | connection (cause : String)
  | timeout
  deriving DecidableEq, Repr, Inhabited

/-- The causes of an attempt to connect that fails. -/
def connectCauses (attempt cause : String) : List String :=
  let failure := attempt ++ ": " ++ cause
  ["error trying to connect: " ++ failure, failure, cause]

def Outage.causes : Outage → List String
  | .name cause => connectCauses "dns error" cause
  | .connection cause => connectCauses "tcp connect error" cause
  | .timeout => ["operation timed out"]

/-- Why there is no response. -/
inductive Obstacle
  | unreadable (fault : Url.Fault)
  /-- The token cannot stand in a header. -/
  | unsendable
  | unreached (url : Url) (outage : Outage)
  deriving DecidableEq, Repr

/-- The causes below a failure, which is worded with the first of them. -/
def below (failure : String) (causes : List String) : List String :=
  String.intercalate ": " (failure :: causes.take 1) :: causes

def Obstacle.causes : Obstacle → List String
  | .unreadable fault => below "builder error" [fault.message]
  | .unsendable => below "builder error" ["failed to parse header value"]
  | .unreached url outage =>
    below ("error sending request for url (" ++ url.write ++ ")") outage.causes

end RunningBalance.Backend
