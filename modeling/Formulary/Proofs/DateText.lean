import Formulary.Form.Coercion
import Formulary.Proofs.Shortest

/-!
# Dates and times are read back from their texts

A date is written as year, month and day with dashes, and the first shape that is tried when a text
is read as a date has just these digits: four, two and two. Years outside 0 to 9999 are written
with a sign, which no shape of a date begins with unless a time follows.

* `readDate?_text`: a date with a year of four digits is read back.
* `readDate?_signed`: no other date is.
* `readTime?_text`: a time of day is read back, up to its seconds.
* `coerceDate_eq_ok`, `coerceTime_eq_ok`: what is stored for a date or a time is such a text.
-/

namespace Formulary

/-! ## Pieces -/

namespace Text

theorem splitFrom_append {c : Char} {s rest : List Char} (clean : c ∉ s) (piece : List Char) :
    splitFrom [c] piece 0 (s ++ c :: rest) = (piece.reverse ++ s) :: splitOn [c] rest := by
  induction s generalizing piece with
  | nil => simp [splitFrom, splitOn]
  | cons d s ih =>
    obtain ⟨other, clean⟩ := not_or.1 (mt List.mem_cons.2 clean)
    have here : [c].isPrefixOf (d :: (s ++ c :: rest)) = false := by
      simp [List.isPrefixOf, other]
    rw [List.cons_append, splitFrom, here, if_neg Bool.false_ne_true, ih clean,
      List.reverse_cons, List.append_assoc]
    rfl

/-- A text is cut first where the separator first stands. -/
theorem splitOn_append {c : Char} {s : List Char} (clean : c ∉ s) (rest : List Char) :
    splitOn [c] (s ++ c :: rest) = s :: splitOn [c] rest :=
  splitFrom_append clean []

theorem splitFrom_of_notMem {c : Char} {s : List Char} (clean : c ∉ s) (piece : List Char) :
    splitFrom [c] piece 0 s = [piece.reverse ++ s] := by
  induction s generalizing piece with
  | nil => simp [splitFrom]
  | cons d s ih =>
    obtain ⟨other, clean⟩ := not_or.1 (mt List.mem_cons.2 clean)
    have here : [c].isPrefixOf (d :: s) = false := by simp [List.isPrefixOf, other]
    rw [splitFrom, here, if_neg Bool.false_ne_true, ih clean, List.reverse_cons, List.append_assoc]
    rfl

/-- A text without the separator is one piece. -/
theorem splitOn_of_notMem {c : Char} {s : List Char} (clean : c ∉ s) : splitOn [c] s = [s] :=
  splitFrom_of_notMem clean []

end Text

namespace Calendar

open Decimal

/-! ## Digits of a fixed number -/

variable {width n : Nat}

theorem isDigit_padded (width n : Nat) : ∀ c ∈ padded width n, c.isDigit = true := by
  intro c among
  rcases List.mem_append.1 among with zero | digit
  · exact isDigit_replicate_zero _ c zero
  · exact (isDigits_digits n).2 c digit

theorem length_padded (positive : 0 < width) (small : n < 10 ^ width) :
    (padded width n).length = width := by
  have short : (digits n).length ≤ width := (length_digits_le_iff positive).2 small
  rw [padded, List.length_append, List.length_replicate]
  omega

theorem ofDigits_padded (width n : Nat) : ofDigits 0 (padded width n) = n := by
  rw [padded, ofDigits_append, ofDigits_zeros, Nat.zero_mul, ofDigits_digits]

/-- A character that is no digit is none of the digits. -/
theorem notMem_padded {c : Char} (other : c.isDigit = false) (width n : Nat) :
    c ∉ padded width n := by
  intro among
  rw [isDigit_padded width n c among] at other
  cases other

/-- Digits of a fixed number are read back, whatever follows them. -/
theorem readFixed?_padded (positive : 0 < width) (small : n < 10 ^ width) (rest : List Char) :
    readFixed? width (padded width n ++ rest) = some (n, rest) := by
  have length := length_padded positive small
  have taken : (padded width n ++ rest).take width = padded width n := List.take_left' length
  have dropped : (padded width n ++ rest).drop width = rest := List.drop_left' length
  have digits := List.all_eq_true.2 (isDigit_padded width n)
  unfold readFixed?
  dsimp only
  rw [taken, dropped, if_pos ⟨length, digits⟩, ofDigits_padded]

theorem readFixed?_of_not_isDigit {c : Char} (other : c.isDigit = false) (count : Nat)
    (rest : List Char) : readFixed? (count + 1) (c :: rest) = none := by
  simp [readFixed?, other]

theorem takeWhile_padded {c : Char} (other : c.isDigit = false) (width n : Nat)
    (rest : List Char) :
    (padded width n ++ c :: rest).takeWhile Char.isDigit = padded width n := by
  rw [List.takeWhile_append_of_pos (isDigit_padded width n), List.takeWhile_cons_of_neg,
    List.append_nil]
  rw [other]
  exact Bool.false_ne_true

theorem not_isBlank_of_isDigit {c : Char} (digit : c.isDigit = true) : Text.isBlank c = false :=
  not_isBlank_of_isNumeral (isNumeral_digits ⟨List.cons_ne_nil c [], fun d among => by
    rwa [List.mem_singleton.1 among]⟩) c List.mem_cons_self

theorem padded_ne_nil (width n : Nat) : padded width n ≠ [] := by
  intro empty
  exact (isDigits_digits n).1 (List.append_eq_nil_iff.1 empty).2

theorem trimStart_of_not_isBlank {c : Char} (solid : Text.isBlank c = false) (rest : List Char) :
    Text.trimStart (c :: rest) = c :: rest := by
  simp [Text.trimStart, solid]

theorem trimStart_padded (width n : Nat) (rest : List Char) :
    Text.trimStart (padded width n ++ rest) = padded width n ++ rest := by
  cases shape : padded width n with
  | nil => exact absurd shape (padded_ne_nil width n)
  | cons c ds =>
    have among : c ∈ padded width n := by
      rw [shape]
      exact List.mem_cons_self
    have digit := isDigit_padded width n c among
    exact trimStart_of_not_isBlank (not_isBlank_of_isDigit digit) _

/-- Digits of a fixed number are also read where fewer would do. -/
theorem readDigits?_padded (small : n < 10 ^ 2) (rest : List Char) :
    readDigits? 2 (padded 2 n ++ rest) = some (n, rest) := by
  have length := length_padded (by decide) small
  have taken : (padded 2 n ++ rest).take 2 = padded 2 n := List.take_left' length
  have dropped : (padded 2 n ++ rest).drop 2 = rest := List.drop_left' length
  have all : (padded 2 n).takeWhile Char.isDigit = padded 2 n :=
    List.takeWhile_eq_self_iff.2 (isDigit_padded 2 n)
  simp [readDigits?, taken, all, padded_ne_nil, ofDigits_padded, length, dropped]

/-- Behind a sign a year takes all digits. -/
theorem readYear?_signed {sign : Char} (isSign : sign = '-' ∨ sign = '+') (width n : Nat)
    (rest : List Char) :
    ∃ year, readYear? (sign :: (padded width n ++ '-' :: rest)) = some (year, '-' :: rest) := by
  have digits : readDigits? (padded width n ++ '-' :: rest).length (padded width n ++ '-' :: rest) =
      some (n, '-' :: rest) := by
    have taken := takeWhile_padded (c := '-') rfl width n rest
    rw [readDigits?, List.take_length]
    simp [taken, padded_ne_nil, ofDigits_padded]
  rcases isSign with rfl | rfl
  · exact ⟨-n, by rw [readYear?, digits]; rfl⟩
  · exact ⟨n, by rw [readYear?, digits]; rfl⟩

/-! ## The parts of a date -/

theorem IsDate.month_lt {year : Int} {month day : Nat} (isDate : IsDate year month day) :
    month < 10 ^ 2 := by
  obtain ⟨-, -, first, last⟩ := isDate
  unfold daysInMonth at last
  repeat' split at last
  all_goals omega

theorem IsDate.day_lt {year : Int} {month day : Nat} (isDate : IsDate year month day) :
    day < 10 ^ 2 := by
  obtain ⟨-, -, first, last⟩ := isDate
  unfold daysInMonth at last
  repeat' split at last
  all_goals omega

/-- The year of the date is written with four digits and no sign. -/
def Date.IsPlain (d : Date) : Prop := 0 ≤ d.year ∧ d.year ≤ 9999

theorem Date.toList_text (d : Date) :
    d.text.toList = yearText d.year ++ '-' :: (padded 2 d.month ++ '-' :: padded 2 d.day) := by
  simp [text]

theorem Date.yearText_of_isPlain {d : Date} (plain : d.IsPlain) :
    yearText d.year = padded 4 d.year.toNat := if_pos plain

theorem Date.yearText_of_not_isPlain {d : Date} (signed : ¬ d.IsPlain) :
    ∃ sign : Char, (sign = '-' ∨ sign = '+') ∧
      yearText d.year = sign :: padded 4 d.year.natAbs := by
  have shape : yearText d.year = (if d.year < 0 then '-' else '+') :: padded 4 d.year.natAbs :=
    if_neg signed
  refine ⟨_, ?_, shape⟩
  split
  · exact Or.inl rfl
  · exact Or.inr rfl

theorem not_isBlank_padded (width n : Nat) : ∀ c ∈ padded width n, Text.isBlank c = false :=
  fun c among => not_isBlank_of_isDigit (isDigit_padded width n c among)

theorem Date.not_isBlank_text (d : Date) : ∀ c ∈ d.text.toList, Text.isBlank c = false := by
  have year : ∀ c ∈ yearText d.year, Text.isBlank c = false := by
    unfold yearText
    split
    · exact not_isBlank_padded _ _
    · refine List.forall_mem_cons.2 ⟨?_, not_isBlank_padded _ _⟩
      split <;> rfl
  rw [toList_text]
  refine List.forall_mem_append.2 ⟨year, List.forall_mem_cons.2 ⟨rfl, ?_⟩⟩
  refine List.forall_mem_append.2 ⟨not_isBlank_padded _ _, ?_⟩
  exact List.forall_mem_cons.2 ⟨rfl, not_isBlank_padded _ _⟩

end Calendar

namespace Form

open Calendar

/-! ## Dates -/

/-- **A date with a year of four digits is read back.** -/
theorem readDate?_text {d : Date} (plain : d.IsPlain) : readDate? d.text.toList = some d := by
  have year : d.year.toNat < 10 ^ 4 := by
    obtain ⟨-, last⟩ := plain
    omega
  have month := readFixed?_padded (by decide) d.isDate.month_lt
  have day := readFixed?_padded (by decide) d.isDate.day_lt []
  have numbers : readDashed? [4, 2, 2] d.text.toList =
      some [d.year.toNat, d.month, d.day] := by
    rw [List.append_nil] at day
    rw [Date.toList_text, Date.yearText_of_isPlain plain]
    simp [readDashed?, readFixed?_padded (by decide) year, month, day]
  have whole : (d.year.toNat : Int) = d.year := Int.toNat_of_nonneg plain.1
  unfold readDate?
  rw [numbers]
  dsimp only
  rw [whole, Date.of?, dif_pos d.isDate]

/-- A pattern that goes on with a time finds none behind a date with a sign. -/
theorem readFrom?_signed {d : Date} (signed : ¬ d.IsPlain) :
    ∃ r, ∀ next, Pattern.readFrom? {} (Pattern.date ++ next) d.text.toList =
      Pattern.readFrom? r next [] := by
  obtain ⟨sign, isSign, shape⟩ := Date.yearText_of_not_isPlain signed
  have solid : Text.isBlank sign = false := by rcases isSign with rfl | rfl <;> rfl
  obtain ⟨year, read⟩ := readYear?_signed isSign 4 d.year.natAbs
    (padded 2 d.month ++ '-' :: padded 2 d.day)
  have month := readDigits?_padded d.isDate.month_lt ('-' :: padded 2 d.day)
  have day := readDigits?_padded d.isDate.day_lt []
  have trimmed := trimStart_padded 2 d.day []
  rw [List.append_nil] at day trimmed
  refine ⟨{ year := year, month := d.month, day := d.day }, fun next => ?_⟩
  rw [Date.toList_text, shape]
  simp [Pattern.date, Pattern.readFrom?, Part.read?, trimStart_of_not_isBlank solid, read,
    trimStart_padded, month, trimmed, day]

/-- **A date with a sign is not read back.** -/
theorem readDate?_signed {d : Date} (signed : ¬ d.IsPlain) : readDate? d.text.toList = none := by
  obtain ⟨r, behind⟩ := readFrom?_signed signed
  have timeless : ∀ p ∈ Pattern.dateTimes, p.read? d.text.toList = none := by
    intro p among
    have next : ∃ next, p = Pattern.date ++ next ∧ Pattern.readFrom? r next [] = none := by
      simp only [Pattern.dateTimes, List.mem_cons, List.not_mem_nil, or_false] at among
      rcases among with rfl | rfl | rfl | rfl <;> exact ⟨_, rfl, rfl⟩
    obtain ⟨next, rfl, none⟩ := next
    rw [Pattern.read?, behind, none]
    rfl
  obtain ⟨sign, isSign, shape⟩ := Date.yearText_of_not_isPlain signed
  have other : sign.isDigit = false := by rcases isSign with rfl | rfl <;> rfl
  have first : ∃ rest, d.text.toList = sign :: rest := by
    rw [Date.toList_text, shape]
    exact ⟨_, rfl⟩
  obtain ⟨rest, first⟩ := first
  have undashed (count : Nat) (counts : List Nat) :
      readDashed? ((count + 1) :: counts) d.text.toList = none := by
    rw [first]
    cases counts <;> simp [readDashed?, readFixed?_of_not_isDigit other]
  have unzoned : readInternet? d.text.toList = none := by
    rw [first, readInternet?, readFixed?_of_not_isDigit other]
    rfl
  have untimed : readDateTime? d.text.toList = none := by
    rw [readDateTime?, unzoned, Option.none_or]
    refine List.findSome?_eq_none_iff.2 fun p among => ?_
    rw [timeless p among]
    rfl
  rw [readDate?, undashed, undashed, untimed]
  rfl

/-! ## Times -/

/-- One or two digits are read as their number. -/
theorem readClock?_text (t : Time) : readClock? t.text.toList = some [t.hour, t.minute] := by
  have colon (width n : Nat) : ':' ∉ padded width n := notMem_padded rfl width n
  have hour : (padded 2 t.hour).length = 2 := by
    have inDay := t.inDay
    exact length_padded (by decide) (by omega)
  have minute : (padded 2 t.minute).length = 2 := by
    have inDay := t.inDay
    exact length_padded (by decide) (by omega)
  have pieces : Text.splitOn [':'] t.text.toList = [padded 2 t.hour, padded 2 t.minute] := by
    rw [Time.text, String.toList_ofList, Text.splitOn_append (colon 2 t.hour),
      Text.splitOn_of_notMem (colon 2 t.minute)]
  rw [readClock?, pieces]
  simp [hour, minute, ofDigits_padded, eq_true (isDigit_padded 2 t.hour),
    eq_true (isDigit_padded 2 t.minute)]

/-- **A time is read back**, as the first second of its minute. -/
theorem readTime?_text (t : Time) :
    ∃ t', readTime? t.text.toList = some t' ∧ t'.text = t.text := by
  have inDay : t.hour < 24 ∧ t.minute < 60 ∧ 0 < 60 := ⟨t.inDay.1, t.inDay.2.1, by decide⟩
  refine ⟨⟨t.hour, t.minute, 0, inDay⟩, ?_, rfl⟩
  rw [readTime?, readClock?_text]
  exact dif_pos inDay

/-! ## Stored texts -/

variable {v : Json} {s : String}

theorem coerceDate_eq_ok (stored : coerceDate v = .ok s) : ∃ d : Calendar.Date, s = d.text := by
  unfold coerceDate at stored
  dsimp only at stored
  split at stored
  · rename_i d _
    cases stored
    exact ⟨d, rfl⟩
  · cases stored

theorem coerceTime_eq_ok (stored : coerceTime v = .ok s) : ∃ t : Calendar.Time, s = t.text := by
  unfold coerceTime at stored
  dsimp only at stored
  split at stored
  · rename_i t _
    cases stored
    exact ⟨t, rfl⟩
  · cases stored

theorem coerceToggle_cases (v : Json) : coerceToggle v = "true" ∨ coerceToggle v = "false" := by
  unfold coerceToggle
  split
  · exact Or.inl rfl
  · exact Or.inr rfl

end Form

end Formulary
