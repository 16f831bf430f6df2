import Formulary.Form.Coercion
import Formulary.Form.Options

/-!
# The live state of a field, and what is shown of it

`FieldState` is what the engine knows of a field while its form is open; an `Update` is one change
of it that a display is told of.
-/

namespace Formulary.Form

structure FieldState where
  /-- The first value has been computed. -/
  initialized : Bool := false
  value : String := ""
  hidden : Bool := false
  /-- The field must be filled in: it is required and not hidden. -/
  required : Bool := false
  placeholder : String := ""
  description : String := ""
  options : OptionSet := {}
  limits : Limits := {}
  deriving DecidableEq

/-- The state of a field before anything is computed. Fixed options are there already. -/
def FieldState.created (f : Field) : FieldState where
  required := f.required
  options := match f.kind with
    | .dropdown (some (.fixed values)) => OptionSet.fixed values
    | _ => {}

/-- The value is empty but for blanks. -/
def FieldState.isBlank (s : FieldState) : Bool := (Text.trim s.value.toList).isEmpty

/-- What a display is told. -/
inductive Update where
  | render (field : Field)
  | value (id value : String)
  | visible (id : String) (visible : Bool)
  | options (id : String) (options : List String)
  | placeholder (id text : String)
  | description (id text : String)
  deriving DecidableEq

/-- The field that an update is about. -/
def Update.id : Update → String
  | .render field => field.id
  | .value id _ | .visible id _ | .options id _ | .placeholder id _ | .description id _ => id

end Formulary.Form
