import Formulary.Proofs.DateText
import Mathlib.Tactic.Linarith

/-!
# Stored values are normal forms

What a kind stores is stored again as it is, and a date, a time and a toggle have one form each. A
date whose year has no four digits is the exception: it is stored with a sign, which the kind does
not take.

* `Binary64.eq_of_toRat`: a finite double is known by its number, up to the sign of zero.
* `clamp_clamp`: clamping again changes nothing.
* `coerce_again`: what is stored again as it is, and what is refused.
-/

namespace Formulary

open Decimal

/-! ## Doubles of one number -/

namespace Binary64

variable {x y : Binary64}

/-- Two magnitudes of one number are the same double. -/
theorem finite_of_eq {m m' : Nat} {e e' : Int} (canonical : Canonical m e)
    (canonical' : Canonical m' e') (same : (m : ℚ) * 2 ^ e = m' * 2 ^ e') (negative : Bool) :
    finite negative m e canonical = finite negative m' e' canonical' := by
  have power (k : Int) : (2 : ℚ) ^ k * 2 ^ (-k).toNat = 2 ^ k.toNat := by
    rw [← zpow_natCast, ← zpow_natCast, ← zpow_add₀ (by norm_num)]
    congr 1
    omega
  -- Both are what the quotient of the first one is rounded to.
  have cross : m * 2 ^ e.toNat * 2 ^ (-e').toNat = m' * (2 ^ (-e).toNat * 2 ^ e'.toNat) := by
    have numbers : (m : ℚ) * 2 ^ e.toNat * 2 ^ (-e').toNat =
        m' * (2 ^ (-e).toNat * 2 ^ e'.toNat) := by
      rw [← power e, ← power e']
      calc (m : ℚ) * (2 ^ e * 2 ^ (-e).toNat) * 2 ^ (-e').toNat
          = m * 2 ^ e * (2 ^ (-e).toNat * 2 ^ (-e').toNat) := by ring
        _ = m' * 2 ^ e' * (2 ^ (-e).toNat * 2 ^ (-e').toNat) := by rw [same]
        _ = m' * (2 ^ (-e).toNat * (2 ^ e' * 2 ^ (-e').toNat)) := by ring
    exact_mod_cast numbers
  have positive : 2 ^ (-e).toNat ≠ 0 := (Nat.two_pow_pos _).ne'
  have first : ofRatio negative (m * 2 ^ e.toNat) (2 ^ (-e).toNat) =
      finite negative m e canonical :=
    ofRatio_eq_finite negative canonical positive (by ring)
  have second := ofRatio_eq_finite negative canonical' positive cross
  exact first.symm.trans second

/-- A double with the mantissa zero is a zero. -/
theorem finite_eq_zero {m : Nat} {e : Int} (negative : Bool) (canonical : Canonical m e)
    (none : m = 0) : finite negative m e canonical = zero negative := by
  subst none
  obtain rfl : e = -1074 := canonical.2.2.2.resolve_left (by decide)
  rfl

/-- **A finite double is known by its number**, up to the sign of zero. -/
theorem eq_of_toRat (known : x.isFinite = true) (known' : y.isFinite = true)
    (same : x.toRat = y.toRat) : x = y ∨ (∃ n, x = zero n) ∧ ∃ n, y = zero n := by
  cases x with
  | nan | infinite => cases known
  | finite n m e canonical =>
    cases y with
    | nan | infinite => cases known'
    | finite n' m' e' canonical' =>
      have same : ((signed n m : Int) : ℚ) * 2 ^ e = (signed n' m' : Int) * 2 ^ e' := same
      have unit (k : Int) : (0 : ℚ) < 2 ^ k := zpow_pos (by norm_num) k
      have size (k : Nat) (i : Int) : (0 : ℚ) ≤ k * 2 ^ i :=
        mul_nonneg (Nat.cast_nonneg k) (unit i).le
      -- Of two signs both numbers can only be zero.
      have apart (opposite : (m : ℚ) * 2 ^ e = -(m' * 2 ^ e')) : m = 0 ∧ m' = 0 := by
        have left : (m : ℚ) * 2 ^ e = 0 := by linarith [size m e, size m' e']
        have right : (m' : ℚ) * 2 ^ e' = 0 := by linarith [size m e, size m' e']
        exact ⟨Nat.cast_eq_zero.1 ((mul_eq_zero.1 left).resolve_right (unit e).ne'),
          Nat.cast_eq_zero.1 ((mul_eq_zero.1 right).resolve_right (unit e').ne')⟩
      have zeros (opposite : (m : ℚ) * 2 ^ e = -(m' * 2 ^ e')) :
          (∃ k, finite n m e canonical = zero k) ∧ ∃ k, finite n' m' e' canonical' = zero k :=
        ⟨⟨n, finite_eq_zero n canonical (apart opposite).1⟩,
          ⟨n', finite_eq_zero n' canonical' (apart opposite).2⟩⟩
      cases n <;> cases n' <;> simp only [signed, if_true, if_false, Bool.false_eq_true,
        Int.cast_neg, Int.cast_natCast, neg_mul] at same
      · exact Or.inl (finite_of_eq canonical canonical' same false)
      · exact Or.inr (zeros same)
      · exact Or.inr (zeros (by linarith))
      · exact Or.inl (finite_of_eq canonical canonical' (neg_inj.1 same) true)

/-! ## Order -/

/-- Seen from the other double the order is turned around. -/
theorem compare?_swap (x y : Binary64) : y.compare? x = (x.compare? y).map Ordering.swap := by
  cases x with
  | nan => cases y <;> rfl
  | infinite n =>
    cases y with
    | nan => rfl
    | infinite n' => cases n <;> cases n' <;> rfl
    | finite => cases n <;> rfl
  | finite n m e canonical =>
    cases y with
    | nan => rfl
    | infinite n' => cases n' <;> rfl
    | finite n' m' e' canonical' =>
      rw [compare?_eq rfl rfl, compare?_eq rfl rfl]
      exact congrArg some Std.OrientedOrd.eq_swap

theorem lt_irrefl (x : Binary64) : x.lt x = false := by
  have turned := compare?_swap x x
  unfold lt
  cases same : x.compare? x with
  | none => rfl
  | some order =>
    rw [same] at turned
    cases order with
    | lt => cases turned
    | eq | gt => rfl

/-- What is at most another double is not above it. -/
theorem not_lt_of_le (below : x.le y = true) : y.lt x = false := by
  unfold le lt sameValue at below
  rw [lt, compare?_swap x y]
  cases seen : x.compare? y with
  | none => rfl
  | some order =>
    rw [seen] at below
    cases order with
    | lt | eq => rfl
    | gt => cases below

theorem compare?_zero (n n' : Bool) (z : Binary64) :
    (zero n).compare? z = (zero n').compare? z ∧ z.compare? (zero n) = z.compare? (zero n') := by
  cases n <;> cases n' <;> cases z <;> exact ⟨rfl, rfl⟩

/-- Doubles of one number compare alike. -/
theorem compare?_congr (known : x.isFinite = true) (known' : y.isFinite = true)
    (same : x.toRat = y.toRat) (z : Binary64) :
    x.compare? z = y.compare? z ∧ z.compare? x = z.compare? y := by
  rcases eq_of_toRat known known' same with rfl | ⟨⟨n, rfl⟩, n', rfl⟩
  · exact ⟨rfl, rfl⟩
  · exact compare?_zero n n' z

end Binary64

theorem numberText_zero (negative : Bool) : numberText (Binary64.zero negative) = "0" := by
  cases negative <;> decide +kernel

/-- Doubles of one number have one text. -/
theorem numberText_congr {x y : Binary64} (known : x.isFinite = true) (known' : y.isFinite = true)
    (same : x.toRat = y.toRat) : numberText x = numberText y := by
  rcases Binary64.eq_of_toRat known known' same with rfl | ⟨⟨n, rfl⟩, n', rfl⟩
  · rfl
  · rw [numberText_zero, numberText_zero]

namespace Form

/-! ## Ranges -/

/-- A finite number between the limits is clamped to itself. -/
theorem clamp_numberText {limits : Limits} {x : Binary64} (known : x.isFinite = true)
    (low : x.lt limits.least = false) (high : limits.greatest.lt x = false) :
    clamp limits (numberText x) = numberText x := by
  obtain ⟨y, reads, known', same⟩ := readNumber?_numberText known
  have alike := Binary64.compare?_congr known' known same
  have low' : y.lt limits.least = false := by rw [← low, Binary64.lt, Binary64.lt, (alike _).1]
  have high' : limits.greatest.lt y = false := by
    rw [← high, Binary64.lt, Binary64.lt, (alike _).2]
  unfold clamp
  rw [reads]
  dsimp only
  rw [low', high', if_neg Bool.false_ne_true, if_neg Bool.false_ne_true]
  split
  · exact numberText_congr known' known same
  · rfl

/-- The text of no finite number spells no number. -/
theorem readNumber?_of_not_isFinite {x : Binary64} (unknown : x.isFinite = false) :
    readNumber? (numberText x).toList = none := by
  cases x with
  | nan => decide +kernel
  | infinite n => cases n <;> decide +kernel
  | finite => cases unknown

/-- **Clamping again changes nothing.** -/
theorem clamp_clamp (limits : Limits) (text : String) :
    clamp limits (clamp limits text) = clamp limits text := by
  cases spelled : readNumber? text.toList with
  | none =>
    have plain : clamp limits text = text := by rw [clamp, spelled]
    rw [plain, plain]
  | some n =>
    by_cases room : limits.least.le limits.greatest = true
    case neg =>
      have plain : clamp limits text = text := by
        rw [clamp, spelled]
        exact if_neg room
      rw [plain, plain]
    case pos =>
      have held : ∃ x : Binary64, clamp limits text = numberText x ∧
          x.lt limits.least = false ∧ limits.greatest.lt x = false := by
        rw [clamp, spelled]
        dsimp only
        rw [if_pos room]
        refine ⟨_, rfl, ?_⟩
        split
        · exact ⟨Binary64.lt_irrefl _, Binary64.not_lt_of_le room⟩
        · rename_i low
          split
          · exact ⟨Binary64.not_lt_of_le room, Binary64.lt_irrefl _⟩
          · rename_i high
            exact ⟨Bool.eq_false_iff.2 low, Bool.eq_false_iff.2 high⟩
      obtain ⟨x, text, low, high⟩ := held
      rw [text]
      cases known : x.isFinite with
      | true => exact clamp_numberText known low high
      | false => rw [clamp, readNumber?_of_not_isFinite known]

/-! ## Forms -/

/-- Four digits, two and two with dashes between them, which name a day of the calendar. -/
def IsDateText (s : String) : Prop :=
  ∃ year month day : List Char, s.toList = year ++ '-' :: (month ++ '-' :: day) ∧
    (year.length = 4 ∧ month.length = 2 ∧ day.length = 2) ∧
    (∀ c ∈ year ++ month ++ day, c.isDigit = true) ∧
    Calendar.IsDate (ofDigits 0 year) (ofDigits 0 month) (ofDigits 0 day)

/-- Two digits and two with a colon between them, which name a minute of the day. -/
def IsTimeText (s : String) : Prop :=
  ∃ hour minute : List Char, s.toList = hour ++ ':' :: minute ∧
    (hour.length = 2 ∧ minute.length = 2) ∧
    (∀ c ∈ hour ++ minute, c.isDigit = true) ∧
    ofDigits 0 hour < 24 ∧ ofDigits 0 minute < 60

/-- The text has the form of the kind, or is empty. -/
def Kind.Normal (kind : Kind) (s : String) : Prop :=
  s = "" ∨ match kind with
    | .date => IsDateText s
    | .time => IsTimeText s
    | .toggle => s = "true" ∨ s = "false"
    | _ => True

/-- The text is a date whose year is written with a sign. -/
def IsSignedDate (s : String) : Prop := ∃ d : Calendar.Date, ¬ d.IsPlain ∧ d.text = s

theorem isDateText_text {d : Calendar.Date} (plain : d.IsPlain) : IsDateText d.text := by
  have year : d.year.toNat < 10 ^ 4 := by
    obtain ⟨-, last⟩ := plain
    omega
  have whole : (d.year.toNat : Int) = d.year := Int.toNat_of_nonneg plain.1
  refine ⟨_, _, _, by rw [Calendar.Date.toList_text, Calendar.Date.yearText_of_isPlain plain],
    ⟨Calendar.length_padded (by decide) year, Calendar.length_padded (by decide) d.isDate.month_lt,
      Calendar.length_padded (by decide) d.isDate.day_lt⟩, ?_, ?_⟩
  · refine List.forall_mem_append.2 ⟨List.forall_mem_append.2 ⟨?_, ?_⟩, ?_⟩ <;>
      exact Calendar.isDigit_padded _ _
  · rw [Calendar.ofDigits_padded, Calendar.ofDigits_padded, Calendar.ofDigits_padded, whole]
    exact d.isDate

theorem not_isDateText_signed {d : Calendar.Date} (signed : ¬ d.IsPlain) :
    ¬ IsDateText d.text := by
  rintro ⟨year, month, day, shape, ⟨four, -⟩, digits, -⟩
  obtain ⟨sign, isSign, starts⟩ := Calendar.Date.yearText_of_not_isPlain signed
  rw [Calendar.Date.toList_text, starts] at shape
  cases year with
  | nil => cases four
  | cons c year =>
    cases List.cons.inj shape with
    | intro same _ =>
      have digit : sign.isDigit = true := by
        rw [same]
        exact digits c (by simp)
      rcases isSign with rfl | rfl <;> cases digit

theorem not_isSignedDate {s : String} (form : IsDateText s) : ¬ IsSignedDate s := by
  rintro ⟨d, signed, rfl⟩
  exact not_isDateText_signed signed form

theorem isTimeText_text (t : Calendar.Time) : IsTimeText t.text := by
  obtain ⟨hour, minute, -⟩ := t.inDay
  refine ⟨_, _, String.toList_ofList, ⟨Calendar.length_padded (by decide) (by omega),
    Calendar.length_padded (by decide) (by omega)⟩, ?_, ?_⟩
  · exact List.forall_mem_append.2 ⟨Calendar.isDigit_padded _ _, Calendar.isDigit_padded _ _⟩
  · rw [Calendar.ofDigits_padded, Calendar.ofDigits_padded]
    exact ⟨hour, minute⟩

/-! ## Storing again -/

variable {limits : Limits} {v : Json} {s : String}

theorem coerceDate_text {d : Calendar.Date} (plain : d.IsPlain) :
    coerceDate (.string d.text) = .ok d.text := by
  rw [coerceDate, trim_of_not_isBlank d.not_isBlank_text, readDate?_text plain]

theorem coerceDate_signed {d : Calendar.Date} (signed : ¬ d.IsPlain) :
    coerceDate (.string d.text) = .error (.date d.text) := by
  rw [coerceDate, trim_of_not_isBlank d.not_isBlank_text, readDate?_signed signed]
  rfl

theorem coerceTime_text (t : Calendar.Time) : coerceTime (.string t.text) = .ok t.text := by
  have solid : ∀ c ∈ t.text.toList, Text.isBlank c = false := by
    rw [Calendar.Time.text, String.toList_ofList]
    refine List.forall_mem_append.2 ⟨Calendar.not_isBlank_padded _ _, ?_⟩
    exact List.forall_mem_cons.2 ⟨rfl, Calendar.not_isBlank_padded _ _⟩
  obtain ⟨t', reads, same⟩ := readTime?_text t
  rw [coerceTime, trim_of_not_isBlank solid, reads, ← same]

theorem coerceToggle_coerceToggle (v : Json) :
    coerceToggle (.string (coerceToggle v)) = coerceToggle v := by
  have fixed : coerceToggle (.string "true") = "true" ∧
      coerceToggle (.string "false") = "false" := by
    decide +kernel
  rcases coerceToggle_cases v with holds | fails
  · rw [holds, fixed.1]
  · rw [fails, fixed.2]

theorem dateText_ne_empty (d : Calendar.Date) : d.text ≠ "" := by
  intro empty
  have dash : '-' ∈ d.text.toList := by simp [Calendar.Date.toList_text]
  rw [empty] at dash
  cases dash

theorem isEmptyValue_string (filled : s ≠ "") : isEmptyValue (.string s) = false := by
  rw [isEmptyValue, String.isEmpty_eq_false_iff]
  exact filled

/-- A text that is not empty is stored from a value that is not. -/
theorem isEmptyValue_of_stored {kind : Kind} (stored : coerce kind limits v = .ok s)
    (filled : s ≠ "") : isEmptyValue v = false := by
  refine Bool.eq_false_iff.2 fun blank => ?_
  unfold coerce at stored
  rw [if_pos blank] at stored
  cases stored
  exact filled rfl

/-- What is stored for a kind that is no date is stored again as it is. -/
theorem coerce_again_of_ne_date {kind : Kind} (other : kind ≠ .date)
    (stored : coerce kind limits v = .ok s) :
    kind.Normal s ∧ coerce kind limits (.string s) = .ok s := by
  by_cases empty : s = ""
  case pos =>
    subst empty
    exact ⟨Or.inl rfl, rfl⟩
  case neg =>
    have filled := isEmptyValue_of_stored stored empty
    unfold coerce at stored ⊢
    rw [filled, if_neg Bool.false_ne_true] at stored
    rw [isEmptyValue_string empty, if_neg Bool.false_ne_true]
    cases kind with
    | date => exact absurd rfl other
    | time =>
      obtain ⟨t, rfl⟩ := coerceTime_eq_ok stored
      exact ⟨Or.inr (isTimeText_text t), coerceTime_text t⟩
    | toggle =>
      cases stored
      exact ⟨Or.inr (coerceToggle_cases v), congrArg Except.ok (coerceToggle_coerceToggle v)⟩
    | range =>
      cases stored
      exact ⟨Or.inr trivial, congrArg Except.ok (clamp_clamp limits _)⟩
    | _ => exact ⟨Or.inr trivial, rfl⟩

/-- A date is stored again as it is if its year has no sign, and is refused if it has one. -/
theorem coerce_again_date (limits : Limits) (d : Calendar.Date) :
    (d.IsPlain → Kind.date.Normal d.text ∧ coerce .date limits (.string d.text) = .ok d.text) ∧
    (¬ d.IsPlain → ¬ Kind.date.Normal d.text ∧
      coerce .date limits (.string d.text) = .error (.date d.text)) := by
  unfold coerce
  rw [isEmptyValue_string (dateText_ne_empty d), if_neg Bool.false_ne_true]
  refine ⟨fun plain => ⟨Or.inr (isDateText_text plain), coerceDate_text plain⟩,
    fun signed => ⟨?_, coerceDate_signed signed⟩⟩
  rintro (empty | form)
  · exact dateText_ne_empty d empty
  · exact not_isDateText_signed signed form

/-- **What a kind stores has its form and is stored again as it is**, unless it is a date whose year
is written with a sign. Such a date is not of the form, and is refused. -/
theorem coerce_again {kind : Kind} (stored : coerce kind limits v = .ok s) :
    (¬ (kind = .date ∧ IsSignedDate s) →
      kind.Normal s ∧ coerce kind limits (.string s) = .ok s) ∧
    (kind = .date ∧ IsSignedDate s →
      ¬ kind.Normal s ∧ coerce kind limits (.string s) = .error (.date s)) := by
  refine ⟨fun unsigned => ?_, ?signed⟩
  case signed =>
    rintro ⟨rfl, d, signed, rfl⟩
    exact (coerce_again_date limits d).2 signed
  by_cases date : kind = .date
  case neg => exact coerce_again_of_ne_date date stored
  subst date
  by_cases empty : s = ""
  case pos =>
    subst empty
    exact ⟨Or.inl rfl, rfl⟩
  have filled := isEmptyValue_of_stored stored empty
  unfold coerce at stored
  rw [filled, if_neg Bool.false_ne_true] at stored
  obtain ⟨d, rfl⟩ := coerceDate_eq_ok stored
  exact (coerce_again_date limits d).1 (Classical.byContradiction fun signed =>
    unsigned ⟨rfl, d, signed, rfl⟩)

/-- The last moment of the year 9999 is stored as a date of the common form. -/
theorem coerce_again_lastMoment :
    coerce .date {} (.int 253402300799999) = .ok "9999-12-31" ∧
      Kind.date.Normal "9999-12-31" ∧
      coerce .date {} (.string "9999-12-31") = .ok "9999-12-31" := by
  have stored : coerce .date {} (.int 253402300799999) = .ok "9999-12-31" := by decide +kernel
  have form : IsDateText "9999-12-31" :=
    ⟨"9999".toList, "12".toList, "31".toList, by decide, by decide, by decide, by decide⟩
  exact ⟨stored, (coerce_again stored).1 fun signed => not_isSignedDate form signed.2⟩

/-- The moment after it is stored with a sign, which is not taken again. -/
theorem coerce_nextMoment :
    coerce .date {} (.int 253402300800000) = .ok "+10000-01-01" ∧
      ¬ Kind.date.Normal "+10000-01-01" ∧
      coerce .date {} (.string "+10000-01-01") = .error (.date "+10000-01-01") := by
  have signed : IsSignedDate "+10000-01-01" :=
    ⟨⟨10000, 1, 1, by decide⟩, fun plain => absurd plain.2 (by decide), by decide +kernel⟩
  refine ⟨by decide +kernel, ?_, by decide +kernel⟩
  rintro (none | form)
  · exact absurd none (by decide)
  · exact not_isSignedDate form signed

end Form

end Formulary
