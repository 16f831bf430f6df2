import Formulary.Proofs.Seam
import Mathlib.Data.List.TakeWhile

/-!
# Numerals

What is written for a finite double or an integer is a numeral with a sign at most in front of it,
and the lexer of expressions reads a whole numeral as one number (`tokens?_numeral`).
-/

namespace Formulary.Decimal

/-! ## The shape of a numeral -/

/-- One or more decimal digits. -/
def IsDigits (ds : List Char) : Prop := ds ≠ [] ∧ ∀ c ∈ ds, c.isDigit = true

/-- Nothing, or a point and more digits. -/
inductive IsFraction : List Char → Prop
  | none : IsFraction []
  | some {ds : List Char} (digits : ∀ c ∈ ds, c.isDigit = true) : IsFraction ('.' :: ds)

/-- Nothing, or a power of ten. -/
inductive IsPower : List Char → Prop
  | none : IsPower []
  | plain {ds : List Char} (digits : IsDigits ds) : IsPower ('e' :: ds)
  | plus {ds : List Char} (digits : IsDigits ds) : IsPower ('e' :: '+' :: ds)
  | minus {ds : List Char} (digits : IsDigits ds) : IsPower ('e' :: '-' :: ds)

/-- A numeral without a sign. -/
inductive IsNumeral : List Char → Prop
  | mk {whole fraction power : List Char} (digits : IsDigits whole)
    (isFraction : IsFraction fraction) (isPower : IsPower power) :
    IsNumeral (whole ++ (fraction ++ power))

theorem isDigits_digits (n : Nat) : IsDigits (digits n) :=
  ⟨Nat.toDigits_ne_nil, fun _ among => Nat.isDigit_of_mem_toDigits (by decide) (by decide) among⟩

theorem ofDigits_append (start : Nat) (ds es : List Char) :
    ofDigits start (ds ++ es) = ofDigits (ofDigits start ds) es :=
  List.foldl_append

/-- The digits of a number spell it. -/
theorem ofDigits_digits (n : Nat) : ofDigits 0 (digits n) = n := by
  have read := Nat.ofDigitChars_toDigits (b := 10) (n := n) (by decide) (by decide)
  rw [Nat.ofDigitChars_eq_foldl] at read
  unfold ofDigits digits
  simpa [Nat.mul_comm] using read

theorem isDigit_replicate_zero (k : Nat) : ∀ c ∈ List.replicate k '0', c.isDigit = true := by
  intro c among
  rw [List.eq_of_mem_replicate among]
  rfl

theorem IsDigits.append {ds es : List Char} (run : IsDigits ds)
    (more : ∀ c ∈ es, c.isDigit = true) : IsDigits (ds ++ es) := by
  refine ⟨?_, ?_⟩
  · intro empty
    exact run.1 (List.append_eq_nil_iff.1 empty).1
  · intro c among
    rcases List.mem_append.1 among with among | among
    · exact run.2 c among
    · exact more c among

theorem isNumeral_fraction {whole fraction : List Char} (run : IsDigits whole)
    (isFraction : IsFraction fraction) : IsNumeral (whole ++ fraction) := by
  have shape := IsNumeral.mk run isFraction .none
  rwa [List.append_nil] at shape

theorem isNumeral_digits {ds : List Char} (run : IsDigits ds) : IsNumeral ds := by
  have shape := isNumeral_fraction run .none
  rwa [List.append_nil] at shape

theorem isNumeral_point (layout : Layout) {ds : List Char} (run : IsDigits ds) (exponent : Int) :
    IsNumeral (layout.point ds exponent) := by
  unfold Layout.point
  split
  · rename_i k
    have whole := run.append (isDigit_replicate_zero k)
    split
    · exact isNumeral_fraction whole (.some (by simp))
    · rw [List.append_nil]
      exact isNumeral_digits whole
  · rename_i k
    dsimp only
    split
    · refine isNumeral_fraction ⟨?_, ?_⟩ (.some ?_)
      · intro empty
        have short := congrArg List.length empty
        rw [List.length_take, List.length_nil] at short
        omega
      · exact fun c among => run.2 c (List.mem_of_mem_take among)
      · exact fun c among => run.2 c (List.mem_of_mem_drop among)
    · have zero : IsDigits ['0'] := ⟨List.cons_ne_nil _ _, by simp [Char.isDigit]⟩
      show IsNumeral (['0'] ++ '.' :: (List.replicate _ '0' ++ ds))
      refine isNumeral_fraction zero (.some fun c among => ?_)
      rcases List.mem_append.1 among with among | among
      · exact isDigit_replicate_zero _ c among
      · exact run.2 c among

theorem isNumeral_scientific (layout : Layout) {ds : List Char} (run : IsDigits ds)
    (leading : Int) : IsNumeral (layout.scientific ds leading) := by
  have plus (k : Nat) : IsPower ('e' :: ((if layout.plus then ['+'] else []) ++ digits k)) := by
    split
    · exact .plus (isDigits_digits k)
    · exact .plain (isDigits_digits k)
  have minus (k : Nat) : IsPower ('e' :: '-' :: digits (k + 1)) := .minus (isDigits_digits (k + 1))
  rcases ds with _ | ⟨d, _ | ⟨d', ds⟩⟩
  · exact absurd rfl run.1
  · cases leading with
    | ofNat k => exact .mk run .none (plus k)
    | negSucc k => exact .mk run .none (minus k)
  · have first : IsDigits [d] := by
      refine ⟨List.cons_ne_nil _ _, fun c among => run.2 c ?_⟩
      rw [List.mem_singleton.1 among]
      exact List.mem_cons_self
    have fraction : IsFraction ('.' :: d' :: ds) :=
      .some fun c among => run.2 c (List.mem_cons_of_mem _ among)
    cases leading with
    | ofNat k => exact .mk first fraction (plus k)
    | negSucc k => exact .mk first fraction (minus k)

theorem isNumeral_set (layout : Layout) (s : Scaled) : IsNumeral (layout.set s) := by
  have run := isDigits_digits s.coefficient
  unfold Layout.set
  dsimp only
  split
  · exact isNumeral_point layout run _
  · exact isNumeral_scientific layout run _

/-- The characters of a numeral. -/
theorem IsNumeral.mem_cases {u : List Char} (isNumeral : IsNumeral u) {c : Char} (among : c ∈ u) :
    c.isDigit = true ∨ c ∈ ['.', 'e', '+', '-'] := by
  obtain ⟨run, isFraction, isPower⟩ := isNumeral
  rcases List.mem_append.1 among with among | among
  · exact Or.inl (run.2 c among)
  rcases List.mem_append.1 among with among | among
  · cases isFraction with
    | none => cases among
    | some digits =>
      rcases List.mem_cons.1 among with rfl | among
      · exact Or.inr (by decide)
      · exact Or.inl (digits c among)
  · cases isPower with
    | none => cases among
    | plain run =>
      rcases List.mem_cons.1 among with rfl | among
      · exact Or.inr (by decide)
      · exact Or.inl (run.2 c among)
    | plus run | minus run =>
      rcases List.mem_cons.1 among with rfl | among
      · exact Or.inr (by decide)
      rcases List.mem_cons.1 among with rfl | among
      · exact Or.inr (by decide)
      · exact Or.inl (run.2 c among)

/-- A power of ten ends the digits before it. -/
theorem IsPower.stops {power : List Char} (isPower : IsPower power) :
    ∀ c ∈ power.head?, c.isDigit = false ∧ c ≠ '.' := by
  intro c first
  cases isPower <;> cases first <;> exact ⟨rfl, by decide⟩

theorem IsNumeral.head {u : List Char} (isNumeral : IsNumeral u) :
    ∃ c r, u = c :: r ∧ c.isDigit = true := by
  obtain ⟨run, isFraction, isPower⟩ := isNumeral
  rename_i whole fraction power
  cases whole with
  | nil => exact absurd rfl run.1
  | cons c whole => exact ⟨c, _, rfl, run.2 c List.mem_cons_self⟩

end Formulary.Decimal

namespace Formulary.Script

open Decimal

/-! ## Reading a numeral -/

/-- A run of characters of a class is taken as a whole, up to what goes on with none of them. -/
theorem takeWhile_stops {p : Char → Bool} {ds rest : List Char} (all : ∀ c ∈ ds, p c = true)
    (stops : ∀ c ∈ rest.head?, p c = false) :
    (ds ++ rest).takeWhile p = ds ∧ (ds ++ rest).dropWhile p = rest := by
  obtain ⟨taken, dropped⟩ := takeWhile_append_of_stops stops ds
  rw [taken, dropped, List.takeWhile_eq_self_iff.2 all, List.dropWhile_eq_nil_iff.2 all]
  exact ⟨rfl, rfl⟩

theorem ne_of_isDigit {c d : Char} (digit : c.isDigit = true) (other : d.isDigit = false) :
    c ≠ d := by
  rintro rfl
  rw [digit] at other
  cases other

theorem toLower_of_isDigit {c : Char} (digit : c.isDigit = true) : c.toLower = c := by
  unfold Char.toLower
  refine dif_neg fun upper => ?_
  simp only [Char.isDigit, Bool.and_eq_true, decide_eq_true_eq, ge_iff_le,
    UInt32.le_iff_toNat_le] at digit upper
  have low : c.val.toNat ≤ 57 := digit.2
  have high : 65 ≤ c.val.toNat := upper.1
  omega

theorem takeWhile_isDigits {ds : List Char} (run : IsDigits ds) :
    ds.takeWhile Char.isDigit = ds ∧ ds.isEmpty = false := by
  rw [List.takeWhile_eq_self_iff, List.isEmpty_eq_false_iff]
  exact ⟨run.2, run.1⟩

theorem exponentPart_power {power : List Char} (isPower : IsPower power) :
    exponentPart power = power := by
  cases isPower with
  | none => rfl
  | plus run => simp [exponentPart, takeWhile_isDigits run]
  | minus run => simp [exponentPart, takeWhile_isDigits run]
  | plain run =>
    simp only [exponentPart, true_or, if_true]
    split
    · exact absurd rfl (ne_of_isDigit (run.2 '+' List.mem_cons_self) rfl)
    · exact absurd rfl (ne_of_isDigit (run.2 '-' List.mem_cons_self) rfl)
    · simp [takeWhile_isDigits run]

theorem numeral_eq {u : List Char} (isNumeral : IsNumeral u) : numeral u = u := by
  obtain ⟨run, isFraction, isPower⟩ := isNumeral
  rename_i whole fraction power
  have stops : ∀ c ∈ power.head?, (c.isDigit || decide (c = '.')) = false := by
    intro c first
    cases isPower <;> cases first <;> rfl
  have body : (whole ++ fraction ++ power).takeWhile (fun c => c.isDigit || decide (c = '.')) =
      whole ++ fraction := by
    refine (takeWhile_stops (fun c among => ?_) stops).1
    rcases List.mem_append.1 among with among | among
    · rw [run.2 c among, Bool.true_or]
    · cases isFraction with
      | none => cases among
      | some digits =>
        rcases List.mem_cons.1 among with rfl | among
        · rfl
        · rw [digits c among, Bool.true_or]
  rw [← List.append_assoc]
  unfold numeral
  dsimp only
  rw [body, List.drop_left, exponentPart_power isPower]

/-- Digits are read up to what is neither a digit nor a point. -/
theorem readMantissa_digits_append {ds rest : List Char} (run : IsDigits ds)
    (stops : ∀ c ∈ rest.head?, c.isDigit = false ∧ c ≠ '.') :
    Binary64.readMantissa (ds ++ rest) = some (ofDigits 0 ds, 0, rest) := by
  have taken := takeWhile_stops run.2 fun c first => (stops c first).1
  unfold Binary64.readMantissa
  dsimp only
  rw [taken.1, taken.2, (takeWhile_isDigits run).2]
  split
  · exact absurd rfl (stops '.' rfl).2
  · rfl

/-- Digits with a point in them are read up to what is no digit. -/
theorem readMantissa_point_append {ds es rest : List Char} (run : IsDigits ds)
    (places : ∀ c ∈ es, c.isDigit = true) (stops : ∀ c ∈ rest.head?, c.isDigit = false) :
    Binary64.readMantissa (ds ++ '.' :: (es ++ rest)) =
      some (ofDigits 0 (ds ++ es), es.length, rest) := by
  have pointStops : ∀ c ∈ ('.' :: (es ++ rest)).head?, c.isDigit = false := by simp
  have taken := takeWhile_stops run.2 pointStops
  have taken' := takeWhile_stops places stops
  unfold Binary64.readMantissa
  simp [taken, taken', run.1, ofDigits_append]

theorem readMantissa_digits {ds : List Char} (run : IsDigits ds) :
    Binary64.readMantissa ds = some (ofDigits 0 ds, 0, []) := by
  have stops : ∀ c ∈ ([] : List Char).head?, c.isDigit = false ∧ c ≠ '.' := by simp
  have whole := readMantissa_digits_append run stops
  rwa [List.append_nil] at whole

theorem readMantissa_point {ds es : List Char} (run : IsDigits ds)
    (places : ∀ c ∈ es, c.isDigit = true) :
    Binary64.readMantissa (ds ++ '.' :: es) = some (ofDigits 0 (ds ++ es), es.length, []) := by
  have stops : ∀ c ∈ ([] : List Char).head?, c.isDigit = false := by simp
  have whole := readMantissa_point_append run places stops
  rwa [List.append_nil] at whole

theorem readMantissa_numeral {whole fraction power : List Char} (run : IsDigits whole)
    (isFraction : IsFraction fraction) (isPower : IsPower power) :
    ∃ coefficient places, Binary64.readMantissa (whole ++ (fraction ++ power)) =
      some (coefficient, places, power) := by
  cases isFraction with
  | none => exact ⟨_, _, readMantissa_digits_append run isPower.stops⟩
  | some digits =>
    exact ⟨_, _, readMantissa_point_append run digits fun c first => (isPower.stops c first).1⟩

theorem readExponent_power {power : List Char} (isPower : IsPower power) :
    ∃ exponent, Binary64.readExponent power = some exponent := by
  have all {ds : List Char} (run : IsDigits ds) : ds.all Char.isDigit = true :=
    List.all_eq_true.2 run.2
  cases isPower with
  | none => exact ⟨_, rfl⟩
  | plus run => simp [Binary64.readExponent, takeWhile_isDigits run, all run]
  | minus run => simp [Binary64.readExponent, takeWhile_isDigits run, all run]
  | plain run =>
    simp only [Binary64.readExponent, decide_true, Bool.true_or, if_true]
    split
    · exact absurd rfl (ne_of_isDigit (run.2 '-' List.mem_cons_self) rfl)
    · exact absurd rfl (ne_of_isDigit (run.2 '+' List.mem_cons_self) rfl)
    · simp [takeWhile_isDigits run, all run]

/-- What starts with a digit is read as a decimal. -/
theorem readUnsigned_of_isDigit {c : Char} {r : List Char} (negative : Bool)
    (digit : c.isDigit = true) : Binary64.readUnsigned negative (c :: r) = do
      let (coefficient, places, rest) ← Binary64.readMantissa (c :: r)
      let exponent ← Binary64.readExponent rest
      return Binary64.ofDecimal negative ⟨coefficient, exponent - places⟩ := by
  have notWord (d : Char) (word : List Char) (letter : d.isDigit = false) :
      decide ((c :: r).map Char.toLower = d :: word) = false := by
    refine decide_eq_false fun same => ?_
    rw [List.map_cons, toLower_of_isDigit digit] at same
    exact ne_of_isDigit digit letter (List.cons.inj same).1
  have notInf : decide ((c :: r).map Char.toLower = "inf".toList) = false := notWord 'i' _ rfl
  have notInfinity : decide ((c :: r).map Char.toLower = "infinity".toList) = false :=
    notWord 'i' _ rfl
  have notNan : decide ((c :: r).map Char.toLower = "nan".toList) = false := notWord 'n' _ rfl
  unfold Binary64.readUnsigned
  simp only [notInf, notInfinity, Bool.or_false, Bool.false_eq_true, if_false]
  rw [if_neg (of_decide_eq_false notNan)]

theorem ofText?_unsigned {c : Char} {r : List Char} (digit : c.isDigit = true) :
    Binary64.ofText? (c :: r) = Binary64.readUnsigned false (c :: r) := by
  unfold Binary64.ofText?
  split
  · rename_i same
    cases same
    exact absurd rfl (ne_of_isDigit digit rfl)
  · rename_i same
    cases same
    exact absurd rfl (ne_of_isDigit digit rfl)
  · rfl

theorem ofText?_of_isDigit {c : Char} {r : List Char} (digit : c.isDigit = true) :
    Binary64.ofText? (c :: r) = do
      let (coefficient, places, rest) ← Binary64.readMantissa (c :: r)
      let exponent ← Binary64.readExponent rest
      return Binary64.ofDecimal false ⟨coefficient, exponent - places⟩ :=
  (ofText?_unsigned digit).trans (readUnsigned_of_isDigit false digit)

/-- **A numeral spells a number.** -/
theorem ofText?_numeral {u : List Char} (isNumeral : IsNumeral u) :
    ∃ n, Binary64.ofText? u = some n := by
  obtain ⟨c, r, rfl, digit⟩ := isNumeral.head
  rw [ofText?_of_isDigit digit]
  generalize c :: r = u at isNumeral
  obtain ⟨run, isFraction, isPower⟩ := isNumeral
  obtain ⟨coefficient, places, mantissa⟩ := readMantissa_numeral run isFraction isPower
  obtain ⟨exponent, power⟩ := readExponent_power isPower
  simp [mantissa, power]

theorem startsNumber_of_isDigit {c : Char} (digit : c.isDigit = true) (r : List Char) :
    startsNumber (c :: r) = true := by
  unfold startsNumber
  split
  · rename_i same
    cases same
    exact absurd rfl (ne_of_isDigit digit rfl)
  · rename_i same
    cases same
    exact digit
  · rename_i same
    cases same

theorem isGap_of_isDigit {c : Char} (digit : c.isDigit = true) : isGap c = false := by
  have other {d : Char} (other : d.isDigit = false) : decide (c = d) = false :=
    decide_eq_false (ne_of_isDigit digit other)
  unfold isGap
  rw [other rfl, other rfl, other rfl, other rfl]
  rfl

/-- **A numeral is one token.** -/
theorem tokens?_numeral {u : List Char} (isNumeral : IsNumeral u) :
    ∃ n, Binary64.ofText? u = some n ∧ tokens? u = some [.number n] := by
  obtain ⟨n, spells⟩ := ofText?_numeral isNumeral
  have whole := numeral_eq isNumeral
  obtain ⟨c, r, rfl, digit⟩ := isNumeral.head
  have plain : IsPlain c :=
    ⟨ne_of_isDigit digit rfl, ne_of_isDigit digit rfl, ne_of_isDigit digit rfl⟩
  have reads := ReadsToken.number plain (startsNumber_of_isDigit digit r) (by rwa [whole])
  rw [whole, List.length_cons, Nat.add_sub_cancel, List.drop_length] at reads
  refine ⟨n, spells, ?_⟩
  rw [tokens?_token (isGap_of_isDigit digit) reads, tokens?_nil]
  rfl

end Formulary.Script
