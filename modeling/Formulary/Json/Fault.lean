import Formulary.Json.Printer
import Formulary.Text.Printable

/-!
# What is wrong with a JSON text

A text may break the syntax, or hold a value other than the one that is expected. A fault says which
and where.
-/

namespace Formulary.Json

/-- A place in a text: the line, from one, and the bytes on that line before the place. -/
structure Place where
  line : Nat := 1
  column : Nat := 0
  deriving DecidableEq

/-- The kind of value that was found. -/
inductive Found where
  | null
  | bool (value : Bool)
  | int (value : Int)
  | float (value : Binary64)
  | string (text : String)
  | sequence
  | map

def Found.ofJson : Json → Found
  | .null => .null
  | .bool b => .bool b
  | .int n => .int n
  | .float x => .float x
  | .string s => .string s
  | .array _ => .sequence
  | .object _ => .map

/-- The wording of a kind of value. -/
def Found.text : Found → String
  | .null => "null"
  | .bool b => "boolean `" ++ toString b ++ "`"
  | .int n => "integer `" ++ String.ofList (intText n) ++ "`"
  | .float x => "floating point `" ++ String.ofList (Decimal.Layout.json.text x) ++ "`"
  | .string s => "string " ++ String.ofList (Text.listingQuoted s.toList)
  | .sequence => "sequence"
  | .map => "map"

/-- What kind of thing ends too early. -/
inductive Unfinished where
  | list
  | object
  | string
  | value

def Unfinished.text : Unfinished → String
  | .list => "a list"
  | .object => "an object"
  | .string => "a string"
  | .value => "a value"

inductive Reason where
  | unfinished (what : Unfinished)
  | expectedColon
  | expectedListCommaOrEnd
  | expectedObjectCommaOrEnd
  | expectedWord
  | expectedValue
  | invalidEscape
  | invalidNumber
  | numberOutOfRange
  | controlInString
  | keyNotString
  | loneSurrogate
  | unfinishedPair
  | trailingComma
  | trailingCharacters
  | tooDeep
  | invalidType (found : Found) (expected : String)
  | invalidValue (found : Found) (expected : String)
  | invalidLength (length : Nat) (expected : String)
  | missingKey (key : String)
  | duplicateKey (key : String)
  | noVariant (name : String)
  | unknownVariant (found : String) (known : List String)

/-- The wording of a reason. -/
def Reason.text : Reason → String
  | .unfinished what => "EOF while parsing " ++ what.text
  | .expectedColon => "expected `:`"
  | .expectedListCommaOrEnd => "expected `,` or `]`"
  | .expectedObjectCommaOrEnd => "expected `,` or `\x7d`"
  | .expectedWord => "expected ident"
  | .expectedValue => "expected value"
  | .invalidEscape => "invalid escape"
  | .invalidNumber => "invalid number"
  | .numberOutOfRange => "number out of range"
  | .controlInString => "control character (\\u0000-\\u001F) found while parsing a string"
  | .keyNotString => "key must be a string"
  | .loneSurrogate => "lone leading surrogate in hex escape"
  | .unfinishedPair => "unexpected end of hex escape"
  | .trailingComma => "trailing comma"
  | .trailingCharacters => "trailing characters"
  | .tooDeep => "recursion limit exceeded"
  | .invalidType found expected => "invalid type: " ++ found.text ++ ", expected " ++ expected
  | .invalidValue found expected => "invalid value: " ++ found.text ++ ", expected " ++ expected
  | .invalidLength n expected =>
    "invalid length " ++ String.ofList (Decimal.digits n) ++ ", expected " ++ expected
  | .missingKey key => "missing field `" ++ key ++ "`"
  | .duplicateKey key => "duplicate field `" ++ key ++ "`"
  | .noVariant name => "data did not match any variant of untagged enum " ++ name
  | .unknownVariant found known =>
    "unknown variant `" ++ found ++ "`, expected one of " ++
      ", ".intercalate (known.map fun name => "`" ++ name ++ "`")

structure Fault where
  reason : Reason
  place : Place

/-- The wording of a fault. -/
def Fault.message (f : Fault) : String :=
  f.reason.text ++ " at line " ++ String.ofList (Decimal.digits f.place.line) ++ " column " ++
    String.ofList (Decimal.digits f.place.column)

end Formulary.Json
