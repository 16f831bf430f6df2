import Formulary.Form.Definition
import Formulary.Json.Reader

/-!
# Reading forms from JSON

A record reads its known keys and leaves the others; a known key may be given once. A form may also
be an array of its values in order. Optional values may be null, and nothing else may.
-/

namespace Formulary

/-! ## Records -/

namespace Json

/-- No key of `keys` is given twice. -/
def onceEach (keys : List String) (members : Members) : Bool :=
  keys.all fun key => (members.filter (·.1 = key)).length ≤ 1

/-- The members of a record with known keys. -/
def object? (keys : List String) : Json → Option Members
  | .object members => if onceEach keys members then some members else none
  | _ => none

/-- The members of a record that may also be an array of its values. -/
def record? (keys : List String) : Json → Option Members
  | .array items => if items.length ≤ keys.length then some (keys.zip items) else none
  | v => object? keys v

def string? : Json → Option String
  | .string s => some s
  | _ => none

def bool? : Json → Option Bool
  | .bool b => some b
  | _ => none

/-- A number as a double. -/
def double? : Json → Option Binary64
  | .int n => some (Binary64.ofInt n)
  | .float x => some x
  | _ => none

/-- An array, read item by item. -/
def list? {α : Type} (read : Json → Option α) : Json → Option (List α)
  | .array items => items.mapM read
  | _ => none

end Json

namespace Members

/-- The value of a key that must be there. -/
def need? {α : Type} (members : Members) (key : String) (read : Json → Option α) : Option α :=
  (members.get? key).bind read

/-- The value of a key, or `default` where it is missing. -/
def getOr? {α : Type} (members : Members) (key : String) (read : Json → Option α) (default : α) :
    Option α :=
  match members.get? key with
  | none => some default
  | some v => read v

/-- The value of a key that may be missing or null. -/
def optional? {α : Type} (members : Members) (key : String) (read : Json → Option α) :
    Option (Option α) :=
  match members.get? key with
  | none | some .null => some none
  | some v => (read v).map some

end Members

namespace Form

open Template (Property)

/-! ## Kinds and fields -/

/-- An object with the text of an expression, or a fixed value. -/
def readProperty? {α : Type} (read : Json → Option α) (v : Json) : Option (Property α) :=
  match (Json.object? ["expression"] v).bind (·.need? "expression" Json.string?) with
  | some source => some (.expression source)
  | none => (read v).map .fixed

/-- The kinds without properties of their own, with the two others in their bare form, in order. -/
def bareKinds : List Kind :=
  [.text, .number, .date, .time, .toggle, .textarea, .range none none none, .dropdown none]

def rangeKeys : List String := ["min_limit", "max_limit", "step"]

def dropdownKeys : List String := ["options"]

/-- The properties that a kind has of its own. -/
def Kind.complete? (members : Members) : Kind → Option Kind
  | .range .. => do
    if !Json.onceEach rangeKeys members then none
    return .range (← members.optional? "min_limit" (readProperty? Json.double?))
      (← members.optional? "max_limit" (readProperty? Json.double?))
      (← members.optional? "step" (readProperty? Json.double?))
  | .dropdown _ => do
    if !Json.onceEach dropdownKeys members then none
    return .dropdown
      (← members.optional? "options" (readProperty? (Json.list? Json.string?)))
  | kind => some kind

/-- The bare kind of a name. -/
def Kind.ofName? (name : String) : Option Kind := bareKinds.find? (·.name = name)

/-- The kind that a field's members give. Inside a field the kind may be given by its number. -/
def Kind.ofMembers? (members : Members) : Option Kind := do
  if !Json.onceEach ["type"] members then none
  let bare ← match members.get? "type" with
    | some (.string name) => Kind.ofName? name
    | some (.int n) => if n < 0 then none else bareKinds[n.toNat]?
    | _ => none
  bare.complete? members

/-- A kind on its own: an object, or an array of its name and its properties. -/
def Kind.ofJson? : Json → Option Kind
  | .object members => do
    let some (.string _) := Members.get? members "type" | none
    Kind.ofMembers? members
  | .array (.string name :: items) => do
    match ← Kind.ofName? name with
    | .range l g s => do
      if rangeKeys.length < items.length then none
      Kind.complete? (rangeKeys.zip items) (.range l g s)
    | .dropdown o => do
      if dropdownKeys.length < items.length then none
      Kind.complete? (dropdownKeys.zip items) (.dropdown o)
    | kind => some kind
  | _ => none

def fieldKeys : List String :=
  ["class_name", "name", "content", "placeholder", "description", "hide_expression", "required",
    "write_to_output_note", "bypass_value_expression_evaluation"]

def Field.ofJson? (v : Json) : Option Field := do
  let members ← Json.object? fieldKeys v
  return {
    id := ← members.need? "class_name" Json.string?
    label := ← members.need? "name" Json.string?
    kind := ← Kind.ofMembers? members
    content := ← members.optional? "content" (readProperty? Json.string?)
    placeholder := ← members.optional? "placeholder" Json.string?
    description := ← members.optional? "description" Json.string?
    hide := ← members.optional? "hide_expression" Json.string?
    required := ← members.getOr? "required" Json.bool? false
    written := ← members.getOr? "write_to_output_note" Json.bool? true
    verbatim := ← members.getOr? "bypass_value_expression_evaluation" Json.bool? false }

/-! ## Forms -/

def formKeys : List String :=
  ["title", "description", "path", "output_name", "submit_label", "fields"]

def Definition.ofMembers? (members : Members) : Option Definition := do
  return {
    title := ← members.need? "title" Json.string?
    description := ← members.optional? "description" Json.string?
    folder := ← members.getOr? "path" Json.string? ""
    outputName := ← members.optional? "output_name" Json.string?
    submitLabel := ← members.optional? "submit_label" Json.string?
    fields := ← members.getOr? "fields" (Json.list? Field.ofJson?) [] }

def Definition.ofJson? (v : Json) : Option Definition :=
  (v.record? formKeys).bind Definition.ofMembers?

/-- The form of a JSON text. -/
def Definition.ofText? (s : List Char) : Option Definition :=
  (Json.written? s).bind Definition.ofJson?

end Form

end Formulary
