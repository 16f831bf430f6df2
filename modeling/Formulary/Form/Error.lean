import Formulary.Script.Error

/-!
# Errors of forms

Why a form cannot be opened, edited or submitted.
-/

namespace Formulary.Form

inductive Error where
  | duplicateIdentifier (id : String)
  | cyclicDependency (path : List String)
  | unknownField (id : String)
  | requiredField (label : String)
  | invalidExpression (label : String) (cause : Script.Error)

/-- The wording of an error. -/
def Error.message : Error → String
  | .duplicateIdentifier id => "Duplicate field identifier '" ++ id ++ "'"
  | .cyclicDependency path =>
    "Cyclic dependency between fields: " ++ " -> ".intercalate path
  | .unknownField id => "Unknown field '" ++ id ++ "'"
  | .requiredField label => "Fill in the " ++ label ++ " field before submitting"
  | .invalidExpression label cause => "Syntax error on " ++ label ++ ": " ++ cause.message

end Formulary.Form
