import Formulary.Calendar.Reading
import Formulary.Form.Definition

/-!
# Notes

The front matter that a form writes, and the name of the note. Names made from an instant are its
milliseconds in base 36.
-/

namespace Formulary.Form

/-- What a field gives to the note. -/
structure FieldData where
  id : String
  kind : Kind
  value : String
  deriving DecidableEq

/-! ## Front matter -/

/-- A character inside a quoted value. -/
def escapeQuoted : Char → List Char
  | '\\' => ['\\', '\\']
  | '"' => ['\\', '"']
  | '\n' => ['\\', 'n']
  | c => [c]

/-- A value in double quotes. -/
def quoteValue (s : List Char) : List Char := '"' :: s.flatMap escapeQuoted ++ ['"']

/-- The line of a field. -/
def FieldData.line (d : FieldData) : List Char :=
  let value := if d.kind.isQuoted then quoteValue d.value.toList else d.value.toList
  d.id.toList ++ [':', ' '] ++ value

/-- The line that opens and closes front matter. -/
def fence : List Char := ['-', '-', '-']

/-- The front matter of the fields, one line each. -/
def frontMatter (data : List FieldData) : String :=
  String.ofList ((fence :: data.map FieldData.line ++ [fence]).flatMap (· ++ ['\n']))

/-! ## Names -/

/-- A digit of base 36. -/
def base36Digit (n : Nat) : Char :=
  if n < 10 then Char.ofNat ('0'.toNat + n) else Char.ofNat ('a'.toNat + (n - 10))

/-- The digits of a number in base 36, in front of `digits`; none for zero. -/
def base36From (digits : List Char) (n : Nat) : List Char :=
  if n = 0 then digits else base36From (base36Digit (n % 36) :: digits) (n / 36)
termination_by n
decreasing_by omega

/-- A number in base 36. -/
def base36 (n : Nat) : List Char := if n = 0 then ['0'] else base36From [] n

/-- The instant of a date text and a time text, to the minute; without a time, the day's start. -/
def writtenInstant? (date time : Option String) : Option Calendar.Instant := do
  let r ← Calendar.Pattern.date.read? (Text.trim (← date).toList)
  let day ← r.date?
  let time? := do
    let r ← Calendar.Pattern.clock.read? (Text.trim (← time).toList)
    r.time?
  return Calendar.instantOf day (time?.getD Calendar.Time.midnight)

/-- The name made from a date and a time and the milliseconds of `now`; without a date, from `now`
alone. -/
def timestampName (date time : Option String) (now : Calendar.Instant) : String :=
  let millis := match writtenInstant? date time with
    | some instant => instant + now % 1000
    | none => now
  String.ofList (base36 millis.toNat)

/-- The path of a note in a folder, with its ending. -/
def notePath (folder name : String) : String :=
  let name := if [ '.', 'm', 'd' ].isSuffixOf name.toList then name else name ++ ".md"
  let folder := Template.trimSlashes folder.toList
  if folder.isEmpty then name else String.ofList folder ++ "/" ++ name

end Formulary.Form
