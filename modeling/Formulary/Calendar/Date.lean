import Formulary.Number.Decimal

/-!
# Dates, times of day and instants

The proleptic Gregorian calendar over the years -262143 to 262142, minutes of a day, and instants
counted in milliseconds from the start of 1970 in UTC.
-/

namespace Formulary.Calendar

/-- Every fourth year, of the full centuries only every fourth. -/
def isLeapYear (year : Int) : Bool :=
  year % 4 = 0 && (year % 100 != 0 || year % 400 = 0)

/-- The number of days of a month; none outside 1 to 12. -/
def daysInMonth (year : Int) : Nat → Nat
  | 2 => if isLeapYear year then 29 else 28
  | 4 | 6 | 9 | 11 => 30
  | m => if 1 ≤ m ∧ m ≤ 12 then 31 else 0

/-- The parts name a day of the calendar. -/
def IsDate (year : Int) (month day : Nat) : Prop :=
  -262143 ≤ year ∧ year ≤ 262142 ∧ 1 ≤ day ∧ day ≤ daysInMonth year month

instance (y : Int) (m d : Nat) : Decidable (IsDate y m d) :=
  inferInstanceAs (Decidable (_ ∧ _ ∧ _ ∧ _))

/-- A day of the calendar. -/
structure Date where
  year : Int
  month : Nat
  day : Nat
  isDate : IsDate year month day
  deriving DecidableEq

/-- The date of the parts, if they name one. -/
def Date.of? (year : Int) (month day : Nat) : Option Date :=
  if h : IsDate year month day then some ⟨year, month, day, h⟩ else none

/-- A time of day. -/
structure Time where
  hour : Nat
  minute : Nat
  second : Nat
  inDay : hour < 24 ∧ minute < 60 ∧ second < 60
  deriving DecidableEq

/-- The time of the parts, if they name one. -/
def Time.of? (hour minute second : Nat) : Option Time :=
  if h : hour < 24 ∧ minute < 60 ∧ second < 60 then some ⟨hour, minute, second, h⟩ else none

/-- The start of the day. -/
def Time.midnight : Time := ⟨0, 0, 0, by decide⟩

/-! ## Text -/

/-- The digits of `n`, at least `width` of them. -/
def padded (width n : Nat) : List Char :=
  let ds := Decimal.digits n
  List.replicate (width - ds.length) '0' ++ ds

/-- A year in four digits, with a sign outside 0 to 9999. -/
def yearText (year : Int) : List Char :=
  if 0 ≤ year ∧ year ≤ 9999 then padded 4 year.toNat
  else (if year < 0 then '-' else '+') :: padded 4 year.natAbs

/-- Year, month and day with dashes. -/
def Date.text (d : Date) : String :=
  String.ofList (yearText d.year ++ '-' :: padded 2 d.month ++ '-' :: padded 2 d.day)

/-- Hour and minute with a colon. -/
def Time.text (t : Time) : String :=
  String.ofList (padded 2 t.hour ++ ':' :: padded 2 t.minute)

/-! ## Counting days -/

/-- The days from the start of 1970 to a date. Years are counted from March, so that the leap day
comes last. -/
def Date.dayNumber (d : Date) : Int :=
  let year := if d.month ≤ 2 then d.year - 1 else d.year
  let era := year / 400
  let yearOfEra := year - era * 400
  let month : Int := (d.month + 9) % 12
  let dayOfYear := (153 * month + 2) / 5 + d.day - 1
  let dayOfEra := yearOfEra * 365 + yearOfEra / 4 - yearOfEra / 100 + dayOfYear
  era * 146097 + dayOfEra - 719468

/-- The date a number of days after the start of 1970. -/
def Date.ofDayNumber? (n : Int) : Option Date :=
  let shifted := n + 719468
  let era := shifted / 146097
  let dayOfEra := shifted - era * 146097
  let yearOfEra := (dayOfEra - dayOfEra / 1460 + dayOfEra / 36524 - dayOfEra / 146096) / 365
  let dayOfYear := dayOfEra - (365 * yearOfEra + yearOfEra / 4 - yearOfEra / 100)
  let fromMarch := (5 * dayOfYear + 2) / 153
  let day := dayOfYear - (153 * fromMarch + 2) / 5 + 1
  let month := if fromMarch < 10 then fromMarch + 3 else fromMarch - 9
  let year := yearOfEra + era * 400 + (if month ≤ 2 then 1 else 0)
  Date.of? year month.toNat day.toNat

/-! ## Instants -/

/-- Milliseconds from the start of 1970. -/
abbrev Instant := Int

/-- The instant of a time on a date. -/
def instantOf (d : Date) (t : Time) : Instant :=
  (d.dayNumber * 86400 + (t.hour * 3600 + t.minute * 60 + t.second : Nat)) * 1000

/-- The date of an instant. -/
def dateOf? (moment : Instant) : Option Date := Date.ofDayNumber? (moment / 86400000)

/-- The time of day of an instant, to the second. -/
def timeOf? (moment : Instant) : Option Time :=
  let second := (moment % 86400000 / 1000).toNat
  Time.of? (second / 3600) (second / 60 % 60) (second % 60)

end Formulary.Calendar
