import Formulary.Template.Evaluate

/-!
# Forms

A form is a list of fields. The kind of a field says how it is edited and what form its values
have; its properties are fixed or computed from other fields and from notes.
-/

namespace Formulary.Form

open Template (Property)

/-- The kind of a field, with the properties of that kind. -/
inductive Kind where
  | text
  | number
  | date
  | time
  | toggle
  | textarea
  | range (least greatest step : Option (Property Binary64))
  | dropdown (options : Option (Property (List String)))
  deriving DecidableEq

namespace Kind

def name : Kind → String
  | .text => "text"
  | .number => "number"
  | .date => "date"
  | .time => "time"
  | .toggle => "toggle"
  | .textarea => "textarea"
  | .range .. => "range"
  | .dropdown _ => "dropdown"

/-- Kinds edited stroke by stroke, whose changes wait a moment before they spread. -/
def isContinuous : Kind → Bool
  | .text | .number | .textarea | .range .. => true
  | _ => false

/-- Kinds whose values are written in quotes. -/
def isQuoted : Kind → Bool
  | .text | .textarea | .dropdown _ => true
  | _ => false

def isDropdown : Kind → Bool
  | .dropdown _ => true
  | _ => false

end Kind

/-- The properties of a field that may hold an expression. -/
inductive PropertyName where
  | options
  | least
  | greatest
  | step
  | value
  | placeholder
  | description
  | hide
  deriving DecidableEq, Repr

/-- A field of a form. -/
structure Field where
  /-- The name by which expressions refer to the field. -/
  id : String
  label : String
  kind : Kind
  content : Option (Property String) := none
  placeholder : Option String := none
  description : Option String := none
  /-- The field is hidden while this holds. -/
  hide : Option String := none
  required : Bool := false
  /-- The value goes into the note. -/
  written : Bool := true
  /-- The content is taken as it is, not evaluated. -/
  verbatim : Bool := false
  deriving DecidableEq

/-- A property with its text, if it is an expression. -/
def Field.sourceOf {α : Type} (name : PropertyName) (property : Option (Property α)) :
    List (PropertyName × String) :=
  (property.bind Property.source?).toList.map (name, ·)

/-- The texts of all properties that may refer to fields. Verbatim content is data. -/
def Field.sources (f : Field) : List (PropertyName × String) :=
  (match f.kind with
    | .dropdown options => sourceOf .options options
    | .range least greatest step =>
      sourceOf .least least ++ sourceOf .greatest greatest ++ sourceOf .step step
    | _ => []) ++
  (if f.verbatim then [] else sourceOf .value f.content) ++
  f.placeholder.toList.map (.placeholder, ·) ++
  f.description.toList.map (.description, ·) ++
  f.hide.toList.map (.hide, ·)

/-- A form. -/
structure Definition where
  title : String
  description : Option String := none
  /-- The folder of the vault in which the note is written. -/
  folder : String := ""
  /-- The text of the note's name. -/
  outputName : Option String := none
  submitLabel : Option String := none
  fields : List Field := []
  deriving DecidableEq

/-- The field of an id. -/
def Definition.field? (form : Definition) (id : String) : Option Field :=
  form.fields.find? (·.id = id)

/-- The ids of the fields, in order. -/
def Definition.ids (form : Definition) : List String := form.fields.map Field.id

/-- What the button says. -/
def Definition.button (form : Definition) : String :=
  match form.submitLabel with
  | some label => if label.isEmpty then "Submit" else label
  | none => "Submit"

end Formulary.Form
