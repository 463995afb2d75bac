import RunningBalance.Environment.Assignments
import RunningBalance.Settings.Environment
import RunningBalance.Settings.File

/-!
# Loading settings

A file of assignments adds to the environment what is not set there. If the environment then names a
settings file, that alone decides; otherwise the variables do.
-/

set_option autoImplicit false
set_option relaxedAutoImplicit false

namespace RunningBalance

/-- The contents of the files that can be read, by their paths. -/
abbrev Files :=
  String → Option String

namespace Settings

/-- The file of assignments. -/
def assignmentsFile : String :=
  ".env"

def load (environment : Environment) (files : Files) : Except Fault Settings :=
  match environment.addFile? (files assignmentsFile) with
  | none => .error .impossibleValue
  | some environment =>
    match environment "BALANCE_MONITOR_CONFIG" with
    | some path => ofFile path (files path)
    | none => ofEnvironment environment

end Settings

end RunningBalance
