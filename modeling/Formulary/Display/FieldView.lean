import Formulary.Form.State

/-!
# A field as it is shown

The display keeps of each field what it was told last. What the user types goes into the shown value
first; the form is then told of it, and answers with the value it makes of it.
-/

namespace Formulary.Display

open Form (Kind Limits Update)

structure FieldView where
  id : String
  label : String
  kind : Kind
  value : String := ""
  visible : Bool := true
  required : Bool := false
  options : List String := []
  placeholder : String := ""
  description : String := ""
  deriving DecidableEq

namespace FieldView

/-- A field of which nothing has been told yet. -/
def ofField (f : Form.Field) : FieldView where
  id := f.id
  label := f.label
  kind := f.kind
  required := f.required

/-! ## How it is edited -/

def isMultiline (v : FieldView) : Bool := v.kind = .textarea

/-- The field is edited by typing characters. -/
def acceptsText (v : FieldView) : Bool :=
  match v.kind with
  | .text | .number | .textarea | .date | .time => true
  | .toggle | .range .. | .dropdown _ => false

/-- What is typed counts only once the field is left. -/
def commitsOnLeave (v : FieldView) : Bool := v.kind = .date || v.kind = .time

/-- The field after it was told something. -/
def apply (v : FieldView) : Update → FieldView
  | .render f => ofField f
  | .value _ value => { v with value := value }
  | .visible _ visible => { v with visible := visible }
  | .options _ options => { v with options := options }
  | .placeholder _ text => { v with placeholder := text }
  | .description _ text => { v with description := text }

/-- The field with a character typed at the end. -/
def push (v : FieldView) (c : Char) : FieldView := { v with value := v.value.push c }

/-- The field without its last character. -/
def pop (v : FieldView) : FieldView :=
  { v with value := String.ofList v.value.toList.dropLast }

/-- The option beside the chosen one, going round. Without a choice it is the first. -/
def cycled? (v : FieldView) (forward : Bool) : Option String :=
  let n := v.options.length
  match v.options.idxOf? v.value with
  | none => v.options.head?
  | some i => v.options[if forward then (i + 1) % n else (i + n - 1) % n]?

/-- The value one step further, within the limits. A step that is not positive counts as one. -/
def stepped (v : FieldView) (limits : Limits) (forward : Bool) : String :=
  let current := (readNumber? v.value.toList).getD limits.least
  let step := if Binary64.lt 0 limits.step then limits.step else 1
  let moved := if forward then current.add step else current.sub step
  let raised := if moved.lt limits.least then limits.least else moved
  let top := limits.greatest.max limits.least
  numberText (if top.lt raised then top else raised)

/-- The other value of a toggle. -/
def toggled (v : FieldView) : String := if v.value = "true" then "false" else "true"

/-! ## How it looks -/

/-- The value as it is shown. -/
def shown (v : FieldView) : String :=
  match v.kind with
  | .toggle => if v.value = "true" then "[x]" else "[ ]"
  | .dropdown _ => "< " ++ v.value ++ " >"
  | _ => v.value

/-- The rows that the field takes, with its frame. -/
def height (v : FieldView) : UInt16 := if v.isMultiline then 6 else 3

end FieldView

end Formulary.Display
