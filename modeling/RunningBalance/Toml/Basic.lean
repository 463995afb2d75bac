/-!
# TOML values

The value types of TOML 1.0. Floats and dates are kept as they are written, since nothing computes
with them.
-/

set_option autoImplicit false
set_option relaxedAutoImplicit false

namespace RunningBalance

/-- The keys of a table are distinct. -/
inductive Toml
  | string (value : String)
  | integer (value : Int)
  | float (literal : String)
  | boolean (value : Bool)
  | dateTime (literal : String)
  | array (items : List Toml)
  | table (members : List (String × Toml))

end RunningBalance
