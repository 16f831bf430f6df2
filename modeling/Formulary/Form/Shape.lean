import Formulary.Form.Reader
import Formulary.Json.Shape

/-!
# What is wrong with the text of a form

The shapes of fields and forms, by which the first fault of a text that cannot be read is found.
-/

namespace Formulary.Form

open Json (Shape Need Reason)

/-- What is wrong with a value that should be a property. -/
def propertyFault {α : Type} (read : Json → Option α) (v : Json) : Option Reason :=
  match readProperty? read v with
  | some _ => none
  | none => some (.noVariant "ExpressionProperty")

/-- What is wrong with the name or the number of a kind. -/
def kindNameFault : Json → Option Reason
  | .string name =>
    if (Kind.ofName? name).isSome then none
    else some (.unknownVariant name (bareKinds.map Kind.name))
  | .int n =>
    if n < 0 then some (.invalidType (.int n) "variant identifier")
    else if n.toNat < bareKinds.length then none
    else some (.invalidValue (.int n) "variant index 0 <= i < 8")
  | v => some (.invalidType (.ofJson v) "variant identifier")

/-- What is wrong with the properties that a kind has of its own, in the order of the members. -/
def ownFault (keys : List String) (fault : Json → Option Reason) (seen : List String) :
    Members → Option Reason
  | [] => none
  | (key, v) :: members =>
    if !keys.contains key then ownFault keys fault seen members
    else if seen.contains key then some (.duplicateKey key)
    else match v with
      | .null => ownFault keys fault (key :: seen) members
      | v => (fault v).or (ownFault keys fault (key :: seen) members)

/-- What is wrong with the kind that a field's members give. -/
def kindFault (members : Members) : Option Reason :=
  match members.filter (·.1 = "type") with
  | [] => some (.missingKey "type")
  | [(_, v)] =>
    (kindNameFault v).or <|
      match v with
      | .string "range" | .int 6 => ownFault rangeKeys (propertyFault Json.double?) [] members
      | .string "dropdown" | .int 7 =>
        ownFault dropdownKeys (propertyFault (Json.list? Json.string?)) [] members
      | _ => none
  | (_, v) :: _ => (kindNameFault v).or (some (.duplicateKey "type"))

def textShape : Shape := .string "a string"

def fieldShape : Shape :=
  .record "FieldDefinition" [
    ("class_name", .always, textShape),
    ("name", .always, textShape),
    ("content", .never, .nullable (.judged (propertyFault Json.string?))),
    ("placeholder", .never, .nullable textShape),
    ("description", .never, .nullable textShape),
    ("hide_expression", .never, .nullable textShape),
    ("required", .never, .flag),
    ("write_to_output_note", .never, .flag),
    ("bypass_value_expression_evaluation", .never, .flag)] (some kindFault)

def Definition.shape : Shape :=
  .record "FormDefinition" [
    ("title", .always, textShape),
    ("description", .never, .nullable textShape),
    ("path", .never, textShape),
    ("output_name", .never, .nullable textShape),
    ("submit_label", .never, .nullable textShape),
    ("fields", .never, .list fieldShape)] none

end Formulary.Form
