import Formulary.Display.FieldView

/-!
# A form as it is shown

The fields stand in the order in which the display was told of them. One of them has the focus;
it moves round the visible fields, and leaves a field that becomes hidden.
-/

namespace Formulary.Display

open Form (Update)

structure FormView where
  title : String := ""
  /-- The text of the button that submits the form. -/
  button : String := ""
  fields : List FieldView := []
  /-- The position of the field that has the focus. -/
  focus : Nat := 0

namespace FormView

def field? (f : FormView) (i : Nat) : Option FieldView := f.fields[i]?

/-- The field that has the focus. -/
def active? (f : FormView) : Option FieldView := f.field? f.focus

/-- The focus may go to this position. -/
def isVisible (f : FormView) (i : Nat) : Bool := (f.field? i).any FieldView.visible

/-- The positions of the visible fields. -/
def visiblePositions (f : FormView) : List Nat := (List.range f.fields.length).filter f.isVisible

/-! ## The focus -/

/-- The positions after `i` among `n`, going round, `i` itself last. -/
def after (n i : Nat) : List Nat := (List.range n).map fun k => (i + 1 + k) % n

/-- The positions before `i` among `n`, going round, `i` itself last. -/
def before (n i : Nat) : List Nat := (List.range n).map fun k => (i + (n - 1 - k)) % n

/-- Moves the focus to the first of some positions that is visible, if one is. -/
def focusFirst (f : FormView) (positions : List Nat) : FormView :=
  match positions.find? f.isVisible with
  | some i => { f with focus := i }
  | none => f

/-- Moves the focus to the next visible field. -/
def next (f : FormView) : FormView := f.focusFirst (after f.fields.length f.focus)

/-- Moves the focus to the previous visible field. -/
def previous (f : FormView) : FormView := f.focusFirst (before f.fields.length f.focus)

/-- Moves the focus to a position, to the last one if it lies beyond. -/
def focusAt (f : FormView) (i : Nat) : FormView := { f with focus := min i (f.fields.length - 1) }

/-- Moves the focus off a hidden field. -/
def keepFocusVisible (f : FormView) : FormView := if f.isVisible f.focus then f else f.next

/-! ## What is told -/

/-- The fields with the one of an id changed. -/
def changeField (id : String) (change : FieldView → FieldView) : List FieldView → List FieldView
  | [] => []
  | v :: fields =>
    if v.id = id then change v :: fields else v :: changeField id change fields

/-- The form after it was told something. A new field comes last; what is told of a field that is
not shown counts for nothing. -/
def apply (f : FormView) (u : Update) : FormView :=
  let told := { f with fields := changeField u.id (·.apply u) f.fields }.keepFocusVisible
  match u with
  | .render field =>
    if f.fields.any (·.id = field.id) then told
    else { f with fields := f.fields ++ [.ofField field] }
  | _ => told

/-- Changes the field that has the focus. -/
def changeActive (f : FormView) (change : FieldView → FieldView) : FormView :=
  { f with fields := f.fields.modify f.focus change }

end FormView

end Formulary.Display
