import Formulary.Calendar.Reading
import Formulary.Form.Definition

/-!
# Stored values

The value of a field is a text. Every kind has its own form of it, into which an evaluated value is
brought (`coerce`); null and the empty text stay empty for all kinds. Bringing a stored value into
form again changes nothing, unless it is a date outside the years 0 to 9999.
-/

namespace Formulary.Form

/-- The limits of a range. -/
structure Limits where
  least : Binary64 := 0
  greatest : Binary64 := 100
  step : Binary64 := 1
  deriving DecidableEq

/-- Why a value does not fit a kind; `input` is the value as text. -/
inductive CoercionError where
  | date (input : String)
  | time (input : String)
  deriving DecidableEq, Repr

def CoercionError.message : CoercionError → String
  | .date _ => "Unexpected format for date field. Expected is YYYY-MM-DD"
  | .time _ => "Unexpected format for time field. Expected is HH:mm"

def CoercionError.input : CoercionError → String
  | .date input | .time input => input

/-- The text of a value: a text as it is, arrays and objects as JSON. -/
def plainText (v : Json) : String :=
  match v with
  | .null => ""
  | .string s => s
  | .array _ | .object _ => v.text
  | v => v.displayText

/-! ## Dates and times -/

/-- The instant that a number of milliseconds stands for. -/
def instantOf? (v : Json) : Option Calendar.Instant :=
  match v with
  | .int _ | .float _ => if v.toNumber.isFinite then some v.toNumber.toInt64 else none
  | _ => none

/-- A date-time, with an offset or without. -/
def readDateTime? (s : List Char) : Option (Calendar.Date × Calendar.Time) :=
  (Calendar.readInternet? s).or <| Calendar.Pattern.dateTimes.findSome? fun pattern => do
    let r ← pattern.read? s
    return (← r.date?, ← r.time?)

/-- Numbers of fixed lengths with a dash or a slash after each but the last, up to the end. -/
def readDashed? : List Nat → List Char → Option (List Nat)
  | [], s => if s.isEmpty then some [] else none
  | [count], s => do
    let (n, rest) ← Calendar.readFixed? count s
    if rest.isEmpty then some [n] else none
  | count :: counts, s => do
    let (n, rest) ← Calendar.readFixed? count s
    match rest with
    | '-' :: rest | '/' :: rest => return n :: (← readDashed? counts rest)
    | _ => none

/-- The date of a text: year first, day first, or with a time. -/
def readDate? (s : List Char) : Option Calendar.Date :=
  match readDashed? [4, 2, 2] s with
  | some [year, month, day] => Calendar.Date.of? year month day
  | _ => match readDashed? [2, 2, 4] s with
    | some [day, month, year] => Calendar.Date.of? year month day
    | _ => (readDateTime? s).map Prod.fst

/-- Numbers of one or two digits with colons between them. -/
def readClock? (s : List Char) : Option (List Nat) :=
  (Text.splitOn [':'] s).mapM fun ds =>
    if 1 ≤ ds.length ∧ ds.length ≤ 2 ∧ ds.all Char.isDigit then some (Decimal.ofDigits 0 ds)
    else none

/-- The time of a text: hours and minutes, maybe seconds, or a date-time. -/
def readTime? (s : List Char) : Option Calendar.Time :=
  match readClock? s with
  | some [hour, minute] => Calendar.Time.of? hour minute 0
  | some [hour, minute, second] => Calendar.Time.of? hour minute second
  | _ => (readDateTime? s).map Prod.snd

def coerceDate (v : Json) : Except CoercionError String :=
  let date? := match v with
    | .string s => readDate? (Text.trim s.toList)
    | v => (instantOf? v).bind Calendar.dateOf?
  match date? with
  | some date => .ok date.text
  | none => .error (.date (plainText v))

def coerceTime (v : Json) : Except CoercionError String :=
  let time? := match v with
    | .string s => readTime? (Text.trim s.toList)
    | v => (instantOf? v).bind fun t => (Calendar.dateOf? t).bind fun _ => Calendar.timeOf? t
  match time? with
  | some time => .ok time.text
  | none => .error (.time (plainText v))

/-! ## Other kinds -/

/-- `true` or `false`; what is neither counts as `false`. -/
def coerceToggle (v : Json) : String :=
  if Text.lower (Text.trim (plainText v).toList) = "true".toList then "true" else "false"

/-- A number held within limits; other text stays. -/
def clamp (limits : Limits) (text : String) : String :=
  match readNumber? text.toList with
  | some n =>
    if limits.least.le limits.greatest then
      numberText (if n.lt limits.least then limits.least
        else if limits.greatest.lt n then limits.greatest else n)
    else text
  | none => text

/-- The value is null or empty. -/
def isEmptyValue : Json → Bool
  | .null => true
  | .string s => s.isEmpty
  | _ => false

/-- The stored value of a kind. -/
def coerce (kind : Kind) (limits : Limits) (v : Json) : Except CoercionError String :=
  if isEmptyValue v then .ok ""
  else match kind with
    | .date => coerceDate v
    | .time => coerceTime v
    | .toggle => .ok (coerceToggle v)
    | .range .. => .ok (clamp limits (plainText v))
    | _ => .ok (plainText v)

end Formulary.Form
