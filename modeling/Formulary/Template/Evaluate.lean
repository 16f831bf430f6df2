import Formulary.Script.Eval
import Formulary.Template.Parts
import Formulary.Template.Resolve

/-!
# Evaluating properties

A property is a fixed value or a text with an expression block. A block on its own keeps the type of
its value; text around it makes a text. An expression that fails leaves the text around it, with a
notice of the error.
-/

namespace Formulary.Template

/-- A property: a fixed value, or the text of an expression. -/
inductive Property (α : Type) where
  | fixed (value : α)
  | expression (source : String)
  deriving DecidableEq

/-- The text of the expression, if it is one. -/
def Property.source? {α : Type} : Property α → Option String
  | .fixed _ => none
  | .expression source => some source

/-- The value of a property text. -/
def evaluateText (now : Calendar.Instant) (store : DocumentStore) (context : Context)
    (raw : String) : ResolveM Json := do
  let parts := Parts.ofText raw.toList
  if parts.isLiteral then return Script.textValue parts.affixes
  let resolved ← resolve store context parts.expression
  match Script.evaluate now resolved with
  | .ok v =>
    if parts.hasAffixes then
      return Script.textValue (parts.before ++ v.display ++ parts.after)
    else return v
  | .error e =>
    raise (.error ("Error evaluating expression: " ++ e.message))
    return Script.textValue parts.affixes

/-- The value of a property, with the JSON form of its fixed value. -/
def evaluate {α : Type} (now : Calendar.Instant) (store : DocumentStore) (context : Context)
    (toJson : α → Json) : Property α → ResolveM Json
  | .fixed value => return toJson value
  | .expression source => evaluateText now store context source

end Formulary.Template
