import Formulary.Form.Coercion
import Formulary.Text.Case

/-!
# Forms that come with the program

The expense report, which reads its options from one note, and the field builder, whose values
describe a field of another form (`fieldOfValues`).
-/

namespace Formulary.Preset

open Form (Field Kind Definition)
open Template (Property)

/-- A block around an expression. -/
def block (expression : String) : String := "\x7b\x7b" ++ expression ++ "\x7d\x7d"

/-- A dropdown whose options an expression gives. -/
def dropdownOf (expression : String) : Kind := .dropdown (some (.expression (block expression)))

def expenseFields : List Field := [
  { id := "date", label := "Date", kind := .date, description := "Enter expense date"
    content := some (.expression (block "today()")) },
  { id := "time", label := "Time", kind := .time, description := "Enter expense time"
    content := some (.expression (block "time()")) },
  { id := "category", label := "Category", description := "Select expense category"
    kind := dropdownOf "%%expenses-dictionary.md%%.categories" },
  { id := "sub-category", label := "Sub-Category", description := "Select expense sub-category"
    kind := dropdownOf "%%expenses-dictionary.md%%[$$.category]" },
  { id := "cost", label := "Cost", kind := .number, description := "Enter how much it cost"
    required := true },
  { id := "origin", label := "Origin", description := "Select expense payment origin"
    kind := dropdownOf "%%expenses-dictionary.md%%.origin"
    hide := some (block "$$.cost === 10") },
  { id := "payment-type", label := "Payment type", description := "Select expense payment type"
    kind := dropdownOf
      "%%expenses-dictionary.md%%[$$.origin === 'Voucher' ? 'voucher' : 'payment-type']" },
  { id := "bought-at", label := "Bought at", kind := .text
    description := "Enter where it was spent", placeholder := "Seller's name" },
  { id := "city", label := "City", description := "Select where it was spent"
    kind := dropdownOf "%%expenses-dictionary.md%%.city" },
  { id := "description", label := "Description", kind := .textarea
    description := "Enter expense description", placeholder := "Expense description" },
  { id := "grouping-tag", label := "Grouping Tag", kind := .text
    description := "Add tag to semantic grouping", placeholder := "#semanticTag" }]

/-- A note per expense. -/
def expenseReport : Definition where
  title := "Expense report"
  folder := "expenses"
  outputName := some (block "$$.date + ' ' + $$.category + ' ' + $$.cost")
  fields := expenseFields

def builderTitle : String := "Field builder"

/-- The field of the builder that names the form to extend. -/
def builderTarget : String := "form"

def builderFields : List Field := [
  { id := builderTarget, label := "Form", kind := .text, description := "Stored form id or title"
    required := true },
  { id := "type", label := "Type", kind := .dropdown (some (.fixed
      ["text", "number", "date", "time", "toggle", "textarea", "range", "dropdown"])) },
  { id := "name", label := "Name", kind := .text, required := true },
  { id := "class-name", label := "Class name", kind := .text
    content := some (.expression (block "$$.name.toLowerCase().replaceAll(' ', '-')")) },
  { id := "description", label := "Description", kind := .text, description := "optional" },
  { id := "placeholder", label := "Placeholder", kind := .text, description := "optional" },
  { id := "default-value", label := "Default Value", kind := .text
    description := "Wrap in double braces to write an expression" },
  { id := "options", label := "Options", kind := .text, description := "Array of options"
    placeholder := "['itemA', 'itemB']", hide := some (block "$$.type !== 'dropdown'") },
  { id := "hide", label := "Hide when", kind := .text
    description := "optional, expression in double braces" },
  { id := "required", label := "Required", kind := .toggle }]

/-- A form whose values describe a field. -/
def fieldBuilder : Definition where
  title := builderTitle
  submitLabel := "Add field"
  fields := builderFields

def isFieldBuilder (form : Definition) : Bool := form.title = builderTitle

/-- The form of a name. -/
def ofName? (name : String) : Option Definition :=
  let name := String.ofList (Text.lower (Text.trim name.toList))
  if ["expense", "expenses", "expense-report", "expense report"].contains name then
    some expenseReport
  else if ["builder", "field-builder", "field builder"].contains name then some fieldBuilder
  else none

/-! ## The field that a builder describes -/

/-- Why values describe no field. -/
inductive BuildError where
  | unnamed
  | unknownKind (name : String)
  | invalidOptions (cause : Script.Error)
  | optionsNotArray (value : Json)

def BuildError.message : BuildError → String
  | .unnamed => "A field needs a name"
  | .unknownKind name => "Unknown field type '" ++ name ++ "'"
  | .invalidOptions cause => "Invalid options: " ++ cause.message
  | .optionsNotArray value => "Options must be an array, got " ++ Form.plainText value

/-- Ids with their values. -/
abbrev Values := List (String × String)

/-- The value of an id without blanks around it. -/
def Values.get (values : Values) (id : String) : String :=
  String.ofList (Text.trim ((values.lookup id).getD "").toList)

/-- The form that a builder's values name. -/
def targetOf (values : Values) : String := values.get builderTarget

/-- The text holds an expression. -/
def hasExpression (text : String) : Bool := !(Template.Parts.ofText text.toList).isLiteral

/-- The dropdown of an options text: an expression stays one, and an array is a fixed list. -/
def dropdownOfText (now : Calendar.Instant) (text : String) : Except BuildError Kind :=
  if text.isEmpty then .ok (.dropdown none)
  else if hasExpression text then .ok (.dropdown (some (.expression text)))
  else match Script.evaluate now text.toList with
    | .ok (.array items) => .ok (.dropdown (some (.fixed (items.map Form.plainText))))
    | .ok v => .error (.optionsNotArray v)
    | .error cause => .error (.invalidOptions cause)

/-- The kind of a name, bare. -/
def bareKind? : String → Option Kind
  | "text" => some .text
  | "number" => some .number
  | "date" => some .date
  | "time" => some .time
  | "toggle" => some .toggle
  | "textarea" => some .textarea
  | "range" => some (.range none none none)
  | _ => none

/-- The text, unless it is empty. -/
def nonEmpty? (text : String) : Option String := if text.isEmpty then none else some text

/-- The field that a builder's values describe. -/
def fieldOfValues (now : Calendar.Instant) (values : Values) : Except BuildError Field := do
  let label := values.get "name"
  if label.isEmpty then throw .unnamed
  let kind ← match values.get "type" with
    | "dropdown" => dropdownOfText now (values.get "options")
    | name => match bareKind? name with
      | some kind => pure kind
      | none => throw (.unknownKind name)
  let id := match values.get "class-name" with
    | "" => String.ofList (Text.replaceAll [' '] ['-'] (Text.lower label.toList))
    | id => id
  return {
    id := id
    label := label
    kind := kind
    content := (nonEmpty? (values.get "default-value")).map fun text =>
      if hasExpression text then .expression text else .fixed text
    placeholder := nonEmpty? (values.get "placeholder")
    description := nonEmpty? (values.get "description")
    hide := nonEmpty? (values.get "hide")
    required := values.get "required" = "true" }

end Formulary.Preset
