import Formulary.Form.Session

/-!
# Submitting a form

A form is submitted when no wave waits any more, every required field is filled in, and every value
that looks like a text with an expression block has one that parses.
-/

namespace Formulary.Form

/-- A note to be written. -/
structure Submission where
  data : List FieldData
  frontMatter : String
  /-- The path of the note in the vault. -/
  fileName : String

namespace Session

/-- The values that go into the note, in the order of the form. -/
def data (s : Session) : List FieldData :=
  (s.form.fields.filter Field.written).map fun f => ⟨f.id, f.kind, (s.value? f.id).getD ""⟩

/-- The front matter of the note. -/
def frontMatter (s : Session) : String := Form.frontMatter s.data

/-- A name from the fields `date` and `time` and the present. -/
def timestamp (s : Session) (now : Calendar.Instant) : String :=
  timestampName (s.value? "date") (s.value? "time") now

/-- The text of the note's name, evaluated. -/
def evaluateName (env : Environment) (s : Session) : Template.ResolveM String :=
  match s.form.outputName with
  | none => return ""
  | some raw => do
    let ids := Template.referencedFields raw.toList
    let context (id : String) : Option String := if ids.contains id then s.value? id else none
    return plainText (← Template.evaluateText env.now env.store context raw)

/-- The path of the note. A blank name gives way to one made from the time. -/
def fileName (env : Environment) (s : Session) : String × Session :=
  let (name, trace) := (s.evaluateName env).run s.trace
  let name := if (Text.trim name.toList).isEmpty then s.timestamp env.now else name
  (notePath s.form.folder name, { s with trace := trace })

/-- The source of the expression that a value seems to hold, in a form that can be parsed without
looking anything up. -/
def valueSyntax (value : String) : Option (List Char) :=
  let parts := Template.Parts.ofText value.toList
  if parts.isLiteral then none
  else some (Template.substituteFields (fun _ => none)
    (Template.blankDocuments ['[', ']'] parts.expression))

/-- What stands against submitting a field. -/
def fieldFault (f : Field) (state : FieldState) : Option Error :=
  if state.required && state.isBlank then some (.requiredField f.label)
  else match valueSyntax state.value with
    | none => none
    | some source => match Script.checkSyntax source with
      | .ok _ => none
      | .error cause => some (.invalidExpression f.label cause)

/-- The first thing that stands against submitting the form. -/
def fault (s : Session) : Option Error :=
  s.form.fields.findSome? fun f => (s.state? f.id).bind (fieldFault f)

/-- Completes what waits, then checks the form and puts the note together. -/
def submit (env : Environment) (s : Session) : Except Error Submission × Session :=
  let s := s.settle env
  match s.fault with
  | some e => (.error e, s)
  | none =>
    let data := s.data
    let (fileName, s) := s.fileName env
    (.ok ⟨data, Form.frontMatter data, fileName⟩, s)

end Session

end Formulary.Form
