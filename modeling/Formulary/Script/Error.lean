import Formulary.Script.Token

/-!
# Errors of expressions

What can be wrong with an expression, by cause; `Error.message` is the wording.
-/

namespace Formulary.Script

/-- Why a text cannot be cut into tokens. -/
inductive LexCause where
  | unexpectedCharacter (c : Char)
  | invalidNumber (text : List Char)
  | unterminatedString
  | danglingEscape
  | invalidUnicodeEscape (digits : List Char)
  | unterminatedTemplate
  | unterminatedSubstitution

/-- Why tokens are no expression. `none` is the end of the input. -/
inductive ParseCause where
  | emptyExpression
  | unexpected (found : Option Token)
  | expected (wanted : Token) (found : Option Token)
  | expectedProperty (found : Option Token)
  | invalidKey (found : Token)
  | unterminatedObject

/-- Why an expression has no value. -/
inductive EvalCause where
  | undefinedName (name : String)
  | notCallable (listing : String)
  | notAFunction (name : String)
  | notAFunctionOn (name display : String)
  | notAStringMethod (name : String)
  | notAnArrayMethod (name : String)
  | callOnNull (name : String)
  | propertyOfNull (name : String)
  | indexOfNull (display : String)
  | strayArrow
  | expectsArrow (name : String)
  | padTooWide (name width : String) (limit : Nat)
  | unreadableJson

inductive Error where
  | lex (position : Nat) (cause : LexCause)
  | parse (cause : ParseCause)
  | eval (cause : EvalCause)

def LexCause.message : LexCause → String
  | .unexpectedCharacter c => "unexpected character '" ++ c.toString ++ "'"
  | .invalidNumber text => "invalid number '" ++ String.ofList text ++ "'"
  | .unterminatedString => "unterminated string literal"
  | .danglingEscape => "dangling escape"
  | .invalidUnicodeEscape digits =>
    "invalid unicode escape '\\u" ++ String.ofList digits ++ "'"
  | .unterminatedTemplate => "unterminated template literal"
  | .unterminatedSubstitution => "unterminated template substitution"

/-- A token that was found, or the end of the input. -/
def foundListing : Option Token → String
  | some t => t.listing
  | none => "end of input"

def ParseCause.message : ParseCause → String
  | .emptyExpression => "empty expression"
  | .unexpected (some t) => "unexpected token " ++ t.listing
  | .unexpected none => "unexpected end of input"
  | .expected wanted found => "expected " ++ wanted.listing ++ ", found " ++ foundListing found
  | .expectedProperty found => "expected property name, found " ++ foundListing found
  | .invalidKey t => "invalid object key " ++ t.listing
  | .unterminatedObject => "unterminated object literal"

def EvalCause.message : EvalCause → String
  | .undefinedName name => name ++ " is not defined"
  | .notCallable listing => listing ++ " is not callable"
  | .notAFunction name => name ++ " is not a function"
  | .notAFunctionOn name display => name ++ " is not a function on " ++ display
  | .notAStringMethod name => name ++ " is not a string method"
  | .notAnArrayMethod name => name ++ " is not an array method"
  | .callOnNull name => "cannot call '" ++ name ++ "' on null"
  | .propertyOfNull name => "cannot read property '" ++ name ++ "' of null"
  | .indexOfNull display => "cannot read index " ++ display ++ " of null"
  | .strayArrow => "arrow functions are only allowed as call arguments"
  | .expectsArrow name => name ++ " expects an arrow function"
  | .padTooWide name width limit =>
    name ++ " width " ++ width ++ " exceeds " ++ toString limit
  | .unreadableJson => "JSON.parse"

/-- The wording of an error. -/
def Error.message : Error → String
  | .lex position cause => "syntax error at " ++ toString position ++ ": " ++ cause.message
  | .parse cause => "syntax error: " ++ cause.message
  | .eval cause => "evaluation error: " ++ cause.message

end Formulary.Script
