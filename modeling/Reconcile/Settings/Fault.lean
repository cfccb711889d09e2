import Reconcile.Settings.Basic

/-!
# Faults of settings

Why a value of the settings cannot be used, with the text that says so.
-/

namespace Reconcile.Settings

/-- Why a value of the settings cannot be used. -/
inductive Fault where
  | unreadablePrecision (column text : String)
  | badPrecision (column text : String)
  | badMapping (entry : String)
  | badFlag (name value : String)
  | badPolicy (value : String)
  | badCap (name value : String)
  | capTooSmall (name : String) (cap : Int)
  deriving DecidableEq, Repr

def Fault.message : Fault → String
  | .unreadablePrecision c t =>
    s!"Numeric column '{c}' with specified precision '{t}' couldn't be obtained."
  | .badPrecision c t => s!"Numeric column '{c}' has invalid precision '{t}'."
  | .badMapping e => s!"Invalid column mapping entry '{e}', expected 'expected=actual'."
  | .badFlag n v => s!"Parameter '{n}' has invalid boolean value '{v}'."
  | .badPolicy v =>
    let allowed := ", ".intercalate (ExtraPolicy.all.map ExtraPolicy.name)
    s!"Invalid extra policy '{v}', expected one of: {allowed}."
  | .badCap n v => s!"Parameter '{n}' must be an integer, got '{v}'."
  | .capTooSmall n c => s!"Parameter '{n}' must be -1 (unlimited) or greater, got {c}."

end Reconcile.Settings
