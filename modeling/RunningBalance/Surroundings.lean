import RunningBalance.Backend.Fetch
import RunningBalance.Log

/-!
# Surroundings

What the program meets outside of itself, as actions of a monad: what answers its requests, how long
its passes take, and where its documents, log lines and metrics go. The program is written for any
surroundings, so that what runs is what is reasoned about. A script sets beforehand what each visit
of a round meets (`Surroundings.script`); a round in it is a value, without any effect.
-/

set_option autoImplicit false
set_option relaxedAutoImplicit false

namespace RunningBalance

structure Surroundings (m : Type → Type) where
  /-- What answers the request of a visit, by the place of the visit in its round. -/
  ask : Nat → Request → m (Except Backend.Outage Response)
  /-- How long it takes to reconcile what a visit has fetched, in seconds. -/
  time : Nat → Transfers → m Float
  /-- Prints a document. -/
  print : String → m Unit
  log : Log.Level → String → m Unit
  /-- Writes the file at a path, unless something is in the way, which it says. -/
  writeFile : String → String → m (Option String)

/-- What a visit meets. -/
structure Occasion where
  backend : Backend
  seconds : Float

/-- Surroundings in which the visits of a round meet one occasion after the other, and every file
can be written. -/
def Surroundings.script (occasions : Nat → Occasion) : Surroundings Id where
  ask place request := pure ((occasions place).backend request.url)
  time place _ := pure (occasions place).seconds
  print _ := pure ()
  log _ _ := pure ()
  writeFile _ _ := pure none

end RunningBalance
