import Formulary.Config
import Formulary.Preset
import Formulary.Text.Path

/-!
# Choosing a form

A form is named by a file that holds it, by the id or the title of a stored form, or by a name of
one that comes with the program. Without a name it is the expense report.
-/

namespace Formulary.Launch

/-- What is printed for help. -/
def usage : String :=
  "Usage: dynaform [FORM]\n\n" ++
  "FORM is a stored form id or title, a built-in preset (expense, builder),\n" ++
  "or a path to a JSON form definition. Defaults to the expense report.\n" ++
  "The vault directory comes from DYNAFORM_VAULT or the config file."

def isHelp (name : String) : Bool := name = "-h" || name = "--help"

/-- What a name stands for. -/
inductive Choice where
  /-- The form that a file holds. -/
  | file (path : String)
  | form (form : Form.Definition)
  | unknown (name : String)

/-- What the name on a command line stands for; `isFile` holds of the paths of files. -/
def choose (c : Config) (isFile : String → Bool) : Option String → Choice
  | none => .form Preset.expenseReport
  | some name =>
    if Text.extension? name.toList = some "json".toList || isFile name then .file name
    else match c.find? name with
      | some stored => .form stored.form
      | none => match Preset.ofName? name with
        | some form => .form form
        | none => .unknown name

/-- The paths of the notes that the texts of a form name. -/
def namedNotes (form : Form.Definition) : List String :=
  let sources := form.fields.flatMap Form.Field.sources |>.map (·.2)
  let texts := sources ++ form.outputName.toList
  (texts.flatMap fun text => (Template.documentSpans text.toList).map fun span =>
    String.ofList span.1).eraseDups

end Formulary.Launch
