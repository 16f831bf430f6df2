import Formulary.Calendar.Date
import Formulary.Text.Blank

/-!
# Reading dates and times

`Pattern.read?` takes a text apart by a list of parts; `readInternet?` reads the date-time of the
internet profile with an offset from UTC. Both must use up the text.
-/

namespace Formulary.Calendar

/-- The numbers that a text gives for a date and a time. A leap second counts as the one before. -/
structure Reading where
  year : Int := 0
  month : Nat := 1
  day : Nat := 1
  hour : Nat := 0
  minute : Nat := 0
  second : Nat := 0

def Reading.date? (r : Reading) : Option Date := Date.of? r.year r.month r.day

def Reading.time? (r : Reading) : Option Time :=
  Time.of? r.hour r.minute (if r.second = 60 then 59 else r.second)

/-- A part of a pattern. -/
inductive Part where
  | year
  | month
  | day
  | hour
  | minute
  | second
  | exactly (c : Char)
  /-- Any number of blanks. -/
  | blanks

abbrev Pattern := List Part

/-- One to `most` digits and the rest. -/
def readDigits? (most : Nat) (s : List Char) : Option (Nat × List Char) :=
  let ds := (s.take most).takeWhile Char.isDigit
  if ds.isEmpty then none else some (Decimal.ofDigits 0 ds, s.drop ds.length)

/-- A year: four digits at most, or a sign and any number of them. -/
def readYear? (s : List Char) : Option (Int × List Char) :=
  match s with
  | '-' :: s => (readDigits? s.length s).map fun (n, s) => (-(n : Int), s)
  | '+' :: s => (readDigits? s.length s).map fun (n, s) => ((n : Int), s)
  | s => (readDigits? 4 s).map fun (n, s) => ((n : Int), s)

/-- One part of a pattern. Blanks before a number are skipped. -/
def Part.read? (r : Reading) (s : List Char) : Part → Option (Reading × List Char)
  | .year => (readYear? (Text.trimStart s)).map fun (n, s) => ({ r with year := n }, s)
  | .month => (readDigits? 2 (Text.trimStart s)).map fun (n, s) => ({ r with month := n }, s)
  | .day => (readDigits? 2 (Text.trimStart s)).map fun (n, s) => ({ r with day := n }, s)
  | .hour => (readDigits? 2 (Text.trimStart s)).map fun (n, s) => ({ r with hour := n }, s)
  | .minute => (readDigits? 2 (Text.trimStart s)).map fun (n, s) => ({ r with minute := n }, s)
  | .second => (readDigits? 2 (Text.trimStart s)).map fun (n, s) => ({ r with second := n }, s)
  | .exactly c => match s with
    | d :: s => if d = c then some (r, s) else none
    | [] => none
  | .blanks => some (r, Text.trimStart s)

/-- The parts of a pattern one after the other. -/
def Pattern.readFrom? (r : Reading) : Pattern → List Char → Option (Reading × List Char)
  | [], s => some (r, s)
  | p :: ps, s => do
    let (r, s) ← p.read? r s
    Pattern.readFrom? r ps s

/-- The reading of a whole text. -/
def Pattern.read? (p : Pattern) (s : List Char) : Option Reading := do
  let (r, rest) ← Pattern.readFrom? {} p s
  if rest.isEmpty then some r else none

/-- Year, month and day with dashes. -/
def Pattern.date : Pattern := [.year, .exactly '-', .month, .exactly '-', .day]

/-- Hour and minute with a colon. -/
def Pattern.clock : Pattern := [.hour, .exactly ':', .minute]

/-- Hour, minute and second with colons. -/
def Pattern.longClock : Pattern := Pattern.clock ++ [.exactly ':', .second]

/-- The date-times without an offset. -/
def Pattern.dateTimes : List Pattern :=
  [Pattern.date ++ .exactly 'T' :: Pattern.longClock, Pattern.date ++ .exactly 'T' :: Pattern.clock,
    Pattern.date ++ .blanks :: Pattern.longClock, Pattern.date ++ .blanks :: Pattern.clock]

/-! ## Date-times with an offset -/

/-- Exactly `count` digits and the rest. -/
def readFixed? (count : Nat) (s : List Char) : Option (Nat × List Char) :=
  let ds := s.take count
  if ds.length = count ∧ ds.all Char.isDigit then some (Decimal.ofDigits 0 ds, s.drop count)
  else none

/-- A character and the rest. -/
def readChar? (c : Char) : List Char → Option (List Char)
  | d :: s => if d = c then some s else none
  | [] => none

/-- An offset from UTC in minutes, at the end of the text. -/
def readOffset? (s : List Char) : Option Int :=
  match s with
  | ['Z'] | ['z'] => some 0
  | sign :: s => do
    if sign != '+' && sign != '-' && sign != '−' then none
    let (hours, s) ← readFixed? 2 s
    let s ← readChar? ':' s
    let (minutes, s) ← readFixed? 2 s
    if hours < 24 && minutes < 60 && s.isEmpty then
      some (if sign = '+' then hours * 60 + minutes else -(hours * 60 + minutes : Int))
    else none
  | [] => none

/-- A fraction of a second, which is read over. -/
def skipFraction? (s : List Char) : Option (List Char) :=
  match s with
  | '.' :: d :: s => if d.isDigit then some (s.dropWhile Char.isDigit) else none
  | ['.'] => none
  | s => some s

/-- A date-time of the internet profile, in UTC. -/
def readInternet? (s : List Char) : Option (Date × Time) := do
  let (year, s) ← readFixed? 4 s
  let s ← readChar? '-' s
  let (month, s) ← readFixed? 2 s
  let s ← readChar? '-' s
  let (day, s) ← readFixed? 2 s
  let s ← (readChar? 'T' s).or ((readChar? 't' s).or (readChar? ' ' s))
  let (hour, s) ← readFixed? 2 s
  let s ← readChar? ':' s
  let (minute, s) ← readFixed? 2 s
  let s ← readChar? ':' s
  let (second, s) ← readFixed? 2 s
  let s ← skipFraction? s
  let offset ← readOffset? s
  let r : Reading := ⟨year, month, day, hour, minute, second⟩
  let moment := instantOf (← r.date?) (← r.time?) - offset * 60000
  return (← dateOf? moment, ← timeOf? moment)

end Formulary.Calendar
