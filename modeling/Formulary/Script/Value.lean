import Formulary.Json.Printer
import Formulary.Text.Blank
import Formulary.Text.Search

/-!
# Values of expressions

Expressions compute with JSON values. Here are their readings as numbers, texts and conditions,
and the comparisons that the operators use.
-/

namespace Formulary

/-! ## Numbers -/

/-- Whole numbers below this size are written as integers. -/
def wholeLimit : Binary64 := Binary64.ofNat 9000000000000000

/-- The integer that a double is written as. -/
def wholeNumber? (x : Binary64) : Option Int :=
  if x.isIntegral && x.abs.lt wholeLimit then some x.toInt64 else none

/-- The text of a number for people. -/
def numberText (x : Binary64) : String :=
  match wholeNumber? x with
  | some n => (Json.int n).text
  | none => String.ofList (Decimal.Layout.full.text x)

/-- The finite number that a text spells between blanks. -/
def readNumber? (s : List Char) : Option Binary64 :=
  (Binary64.ofText? (Text.trim s)).filter Binary64.isFinite

namespace Json

/-- The value of a computed number; null if it is not finite. -/
def ofNumber (x : Binary64) : Json :=
  match wholeNumber? x with
  | some n => .int n
  | none => if x.isFinite then .float x else .null

/-- The value as a number. A blank text is zero, any other text that spells no number is not one;
nor is an array or an object. -/
def toNumber : Json → Binary64
  | .null => 0
  | .bool b => if b then 1 else 0
  | .int n => Binary64.ofInt n
  | .float x => x
  | .string s =>
    if (Text.trim s.toList).isEmpty then 0 else (readNumber? s.toList).getD .nan
  | .array _ | .object _ => .nan

/-! ## Texts and conditions -/

mutual

/-- The value as text that is shown. In an array null is empty, and an object is JSON text. -/
def display : Json → List Char
  | .null => "null".toList
  | .bool b => if b then "true".toList else "false".toList
  | .int n => (numberText (Binary64.ofInt n)).toList
  | .float x => (numberText x).toList
  | .string s => s.toList
  | .array items => Text.join [','] (displayItems items)
  | .object members => (Json.object members).chars

def displayItems : List Json → List (List Char)
  | [] => []
  | v :: items => (if v.isNull then [] else v.display) :: displayItems items

end

/-- The value as text that is shown. -/
def displayText (v : Json) : String := String.ofList v.display

/-- The value as a condition: null, false, zero and the empty text do not hold. -/
def truthy : Json → Bool
  | .null => false
  | .bool b => b
  | .int n => !(Binary64.ofInt n).isZero
  | .float x => !x.isNaN && !x.isZero
  | .string s => !s.isEmpty
  | .array _ | .object _ => true

/-- An array or an object. -/
def isCompound : Json → Bool
  | .array _ | .object _ => true
  | _ => false

/-! ## Comparison -/

/-- Equality up to the type: a number equals its numeral, and a truth value its word. -/
def looselyEquals (v w : Json) : Bool :=
  match v, w with
  | .int _, .string s | .float _, .string s =>
    (readNumber? s.toList).any fun n => n.sameValue v.toNumber
  | .string s, .int _ | .string s, .float _ =>
    (readNumber? s.toList).any fun n => n.sameValue w.toNumber
  | .int _, .int _ | .int _, .float _ | .float _, .int _ | .float _, .float _ =>
    v.toNumber.sameValue w.toNumber
  | .bool b, .string s | .string s, .bool b =>
    Text.sameIgnoringCase (Text.trim s.toList) (if b then "true" else "false").toList
  | _, _ => v.same w

/-- Two texts compare by their characters, other values as numbers. -/
def compare? (v w : Json) : Option Ordering :=
  match v, w with
  | .string s, .string t => some (if s < t then .lt else if s = t then .eq else .gt)
  | _, _ => v.toNumber.compare? w.toNumber

end Json

end Formulary
