import Formulary.Form.Definition

/-!
# Writing forms as JSON

Members stand in the order of the declaration. An optional value that is missing is left out, and
so is the mark of a field that is written, which is the rule.
-/

namespace Formulary

/-- A member for an optional value. -/
def Members.ofOption {α : Type} (key : String) (write : α → Json) (value : Option α) : Members :=
  value.toList.map fun v => (key, write v)

namespace Form

open Template (Property)

def propertyJson {α : Type} (write : α → Json) : Property α → Json
  | .fixed value => write value
  | .expression source => .object [("expression", .string source)]

/-- The name of the kind and its own properties. -/
def Kind.members (kind : Kind) : Members :=
  ("type", .string kind.name) :: match kind with
    | .range least greatest step =>
      Members.ofOption "min_limit" (propertyJson .float) least ++
      Members.ofOption "max_limit" (propertyJson .float) greatest ++
      Members.ofOption "step" (propertyJson .float) step
    | .dropdown options => Members.ofOption "options" (propertyJson Json.ofStrings) options
    | _ => []

def Field.toJson (f : Field) : Json :=
  .object (
    [("class_name", .string f.id), ("name", .string f.label)] ++ f.kind.members ++
    Members.ofOption "content" (propertyJson .string) f.content ++
    Members.ofOption "placeholder" .string f.placeholder ++
    Members.ofOption "description" .string f.description ++
    Members.ofOption "hide_expression" .string f.hide ++
    [("required", .bool f.required)] ++
    (if f.written then [] else [("write_to_output_note", .bool false)]) ++
    [("bypass_value_expression_evaluation", .bool f.verbatim)])

def Definition.members (form : Definition) : Members :=
  [("title", .string form.title)] ++
  Members.ofOption "description" .string form.description ++
  [("path", .string form.folder)] ++
  Members.ofOption "output_name" .string form.outputName ++
  Members.ofOption "submit_label" .string form.submitLabel ++
  [("fields", .array (form.fields.map Field.toJson))]

def Definition.toJson (form : Definition) : Json := .object form.members

/-- The JSON text of a form. -/
def Definition.text (form : Definition) : String := form.toJson.text

end Form

end Formulary
