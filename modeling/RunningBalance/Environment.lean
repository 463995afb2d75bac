/-!
# Environments

The variables a program is started with. A variable that is not set has no value, which is not the
same as an empty one. A zero character ends every value, so no value has one in it.
-/

set_option autoImplicit false
set_option relaxedAutoImplicit false

namespace RunningBalance

/-- The values of the variables that are set. -/
abbrev Environment :=
  String → Option String

namespace Environment

/-- The environment with a value for a variable that is not set yet. -/
def add (environment : Environment) (name value : String) : Environment :=
  fun asked ↦
    if asked = name then some ((environment name).getD value) else environment asked

theorem add_self (environment : Environment) (name value : String) :
    environment.add name value name = some ((environment name).getD value) := by
  simp [add]

theorem add_of_ne (environment : Environment) {name asked : String} (value : String)
    (h : asked ≠ name) : environment.add name value asked = environment asked := by
  simp [add, h]

/-- Whether a variable can have the value. -/
def canHold (value : String) : Bool :=
  !value.toList.contains '\x00'

/-- The environment with a value for a variable that is not set yet. There is none if the variable
is to be set to a value that it cannot have. -/
def add? (environment : Environment) (name value : String) : Option Environment :=
  if (environment name).isSome || canHold value then some (environment.add name value) else none

theorem add?_of_canHold (environment : Environment) (name : String) {value : String}
    (h : canHold value) : environment.add? name value = some (environment.add name value) := by
  simp [add?, h]

theorem add?_of_isSome {environment : Environment} {name : String} (value : String)
    (h : (environment name).isSome) :
    environment.add? name value = some (environment.add name value) := by
  simp [add?, h]

end Environment

end RunningBalance
