import Formulary.Form.Graph
import Formulary.Form.Output
import Formulary.Form.Reader
import Formulary.Form.Shape
import Formulary.Form.Writer

/-!
# Configuration

Where the vault is, how long edits wait, and the stored forms. The configuration is kept as indented
JSON text. A field is added to the stored form that a key names, or to a new form of that title.
-/

namespace Formulary

/-- A form of the configuration. An inactive one is not offered. -/
structure StoredForm where
  id : String
  active : Bool := true
  form : Form.Definition
  deriving DecidableEq

structure Config where
  vaultPath : Option String := none
  /-- Milliseconds that an edit of a continuous field waits. -/
  debounce : Option Nat := none
  forms : List StoredForm := []
  deriving DecidableEq

namespace Config

/-! ## Text -/

def StoredForm.ofJson? (v : Json) : Option StoredForm := do
  let members ← v.record? ["id", "active", "form"]
  return {
    id := ← members.need? "id" Json.string?
    active := ← members.getOr? "active" Json.bool? true
    form := ← members.need? "form" Form.Definition.ofJson? }

def StoredForm.toJson (s : StoredForm) : Json :=
  .object [("id", .string s.id), ("active", .bool s.active), ("form", s.form.toJson)]

def nat64? : Json → Option Nat
  | .int n => if 0 ≤ n ∧ n < 2 ^ 64 then some n.toNat else none
  | _ => none

/-- An array has to give the first two values. -/
def ofJson? (v : Json) : Option Config := do
  let members ← v.record? ["vault_path", "debounce_ms", "forms"]
  match v with
  | .array items => if items.length < 2 then none
  | _ => pure ()
  return {
    vaultPath := ← members.optional? "vault_path" Json.string?
    debounce := ← members.optional? "debounce_ms" nat64?
    forms := ← members.getOr? "forms" (Json.list? StoredForm.ofJson?) [] }

def toJson (c : Config) : Json :=
  .object [
    ("vault_path", (c.vaultPath.map Json.string).getD .null),
    ("debounce_ms", (c.debounce.map fun n : Nat => Json.int n).getD .null),
    ("forms", .array (c.forms.map StoredForm.toJson))]

/-- The configuration of a text. -/
def load? (text : String) : Option Config := (Json.written? text.toList).bind ofJson?

open Json (Shape Need) in
/-- What the text of a configuration is expected to hold. -/
def shape : Shape :=
  .record "AppConfig" [
    ("vault_path", .nullable, .nullable (.string "path string")),
    ("debounce_ms", .nullable, .nullable .natural),
    ("forms", .never, .list (.record "StoredForm" [
      ("id", .always, Form.textShape),
      ("active", .never, .flag),
      ("form", .always, Form.Definition.shape)] none))] none

/-- The configuration of a text, or the first fault of a text that has none. -/
def load (text : String) : Except Json.Fault Config :=
  match load? text with
  | some c => .ok c
  | none => .error ((shape.fault? text.toList).getD ⟨.expectedValue, {}⟩)

/-- The text of a configuration. -/
def save (c : Config) : String := c.toJson.indentedText

/-! ## Settings -/

/-- The vault: what the environment names, else the configured one, else the working directory. -/
def vault (c : Config) (environment : Option String) : String :=
  match environment.filter fun v => !(Text.trim v.toList).isEmpty with
  | some path => path
  | none => c.vaultPath.getD "."

/-! ## Stored forms -/

/-- The key is the stored form's id or title. -/
def StoredForm.isNamed (s : StoredForm) (key : String) : Bool := s.id = key || s.form.title = key

/-- The first active form that a key names. -/
def find? (c : Config) (key : String) : Option StoredForm :=
  (c.forms.filter StoredForm.active).find? (StoredForm.isNamed · key)

/-- The words of a text. -/
def words (s : List Char) : List (List Char) :=
  (s.splitBy fun c d => !Text.isBlank c && !Text.isBlank d).filter fun w => !w.all Text.isBlank

/-- The id of a form: the words of its title and an instant. -/
def formId (title : String) (now : Calendar.Instant) : String :=
  String.ofList (Text.join ['-'] (words title.toList) ++ '-' :: Form.base36 now.toNat)

/-- The forms with one in place of the first that has its title, and that one's id. -/
def replaceTitled (form : Form.Definition) : List StoredForm → Option (List StoredForm × String)
  | [] => none
  | s :: forms =>
    if s.form.title = form.title then some ({ s with form := form } :: forms, s.id)
    else (replaceTitled form forms).map fun (forms, id) => (s :: forms, id)

/-- Stores a form in place of one with its title, or at the end. -/
def upsert (c : Config) (form : Form.Definition) (now : Calendar.Instant) : Config × String :=
  match replaceTitled form c.forms with
  | some (forms, id) => ({ c with forms := forms }, id)
  | none =>
    let id := formId form.title now
    ({ c with forms := c.forms ++ [{ id := id, form := form }] }, id)

/-- Why a field is not added. -/
inductive AddError where
  | unnamed
  | form (cause : Form.Error)

def AddError.message : AddError → String
  | .unnamed => "Name the form that receives the field"
  | .form cause => cause.message

/-- The fields with one in place of the first of its id, or at the end. -/
def putField (field : Form.Field) : List Form.Field → List Form.Field
  | [] => [field]
  | f :: fields => if f.id = field.id then field :: fields else f :: putField field fields

/-- Adds a field to the form that a key names. -/
def addField (c : Config) (key : String) (field : Form.Field) (now : Calendar.Instant) :
    Except AddError (Config × String) :=
  let key := String.ofList (Text.trim key.toList)
  if key.isEmpty then .error .unnamed
  else
    let form := match c.forms.find? (StoredForm.isNamed · key) with
      | some s => s.form
      | none => { title := key }
    let form := { form with fields := putField field form.fields }
    match Form.Graph.ofDefinition form with
    | .error cause => .error (.form cause)
    | .ok _ => .ok (c.upsert form now)

end Config

end Formulary
