import Formulary.Form.Output

/-!
# Names in base 36

The loop that writes a number takes its last digit off and puts it in front of the digits it has.
What is left of the number, with these digits behind it, stays the same all the way
(`valueFrom_base36From`), so the digits spell the number. Of two numerals of one length the order is
that of the first place where they differ; a longer one without a zero in front is the greater
(`valueFrom_lt_of_longer`).

* `base36_faithful`: a numeral reads back, has digits alone and no zero in front, and numerals are
  in the order of their lengths, then of their texts, just as their numbers are.
-/

namespace Formulary.Form

variable {c d : Char} {s t : List Char} {m n : Nat}

/-! ## Numerals -/

/-- A digit or a small letter. -/
def IsBase36 (c : Char) : Prop := ('0' ≤ c ∧ c ≤ '9') ∨ ('a' ≤ c ∧ c ≤ 'z')

instance : DecidablePred IsBase36 := fun c =>
  inferInstanceAs (Decidable (('0' ≤ c ∧ c ≤ '9') ∨ ('a' ≤ c ∧ c ≤ 'z')))

/-- The number that a digit stands for. -/
def digitValue (c : Char) : Nat :=
  if c ≤ '9' then c.toNat - '0'.toNat else c.toNat - 'a'.toNat + 10

/-- The number that is spelled by more digits behind those of `n`. -/
def valueFrom (n : Nat) (s : List Char) : Nat := s.foldl (fun n c => 36 * n + digitValue c) n

/-- The number that a numeral in base 36 spells; none for any other text. -/
def readBase36? (s : List Char) : Option Nat :=
  if s ≠ [] ∧ ∀ c ∈ s, IsBase36 c then some (valueFrom 0 s) else none

/-! ## Digits -/

theorem isBase36_base36Digit : ∀ n < 36, IsBase36 (base36Digit n) := by decide

theorem digitValue_base36Digit : ∀ n < 36, digitValue (base36Digit n) = n := by decide

theorem isBase36_iff :
    IsBase36 c ↔ (48 ≤ c.toNat ∧ c.toNat ≤ 57) ∨ (97 ≤ c.toNat ∧ c.toNat ≤ 122) := Iff.rfl

theorem digitValue_eq :
    digitValue c = if c.toNat ≤ 57 then c.toNat - 48 else c.toNat - 97 + 10 := rfl

theorem digitValue_lt (digit : IsBase36 c) : digitValue c < 36 := by
  rw [isBase36_iff] at digit
  rw [digitValue_eq]
  split <;> omega

/-- Digits are in the order of what they stand for. -/
theorem digitValue_lt_iff (digit : IsBase36 c) (other : IsBase36 d) :
    digitValue c < digitValue d ↔ c < d := by
  rw [isBase36_iff] at digit other
  have less : c < d ↔ c.toNat < d.toNat := Iff.rfl
  rw [digitValue_eq, digitValue_eq, less]
  split <;> split <;> omega

theorem digitValue_pos (digit : IsBase36 c) (notZero : c ≠ '0') : 0 < digitValue c := by
  have zero : digitValue '0' = 0 := rfl
  have least : '0' ≤ c := by
    rcases digit with ⟨least, -⟩ | ⟨least, -⟩
    · exact least
    · exact Nat.le_trans (by decide) least
  rw [← zero, digitValue_lt_iff (by decide) digit]
  exact Nat.lt_of_le_of_ne least fun same => notZero (Char.toNat_inj.1 same).symm

/-! ## The numeral of a number -/

theorem valueFrom_cons (n : Nat) (c : Char) (s : List Char) :
    valueFrom n (c :: s) = valueFrom (36 * n + digitValue c) s := rfl

theorem valueFrom_append (n : Nat) (s t : List Char) :
    valueFrom n (s ++ t) = valueFrom (valueFrom n s) t := List.foldl_append

/-- What is spelled stays the same from the start of the loop to its end. -/
theorem valueFrom_base36From (digits : List Char) (n : Nat) :
    valueFrom 0 (base36From digits n) = valueFrom n digits := by
  fun_induction base36From digits n with
  | case1 => rfl
  | case2 digits n more ih =>
    rw [ih, valueFrom_cons, digitValue_base36Digit _ (Nat.mod_lt n (by decide)), Nat.div_add_mod]

theorem isBase36_base36From {digits : List Char} (written : ∀ c ∈ digits, IsBase36 c) (n : Nat) :
    ∀ c ∈ base36From digits n, IsBase36 c := by
  fun_induction base36From digits n with
  | case1 => exact written
  | case2 digits n more ih =>
    refine ih fun c among => ?_
    rcases List.mem_cons.1 among with rfl | among
    · exact isBase36_base36Digit _ (Nat.mod_lt n (by decide))
    · exact written c among

/-- The first digit is that of a number below 36, which is not zero. -/
theorem head_base36From (digits : List Char) (notZero : n ≠ 0) :
    ∃ k, 0 < k ∧ k < 36 ∧ (base36From digits n).head? = some (base36Digit k) := by
  fun_induction base36From digits n with
  | case1 => exact absurd rfl notZero
  | case2 digits n _ ih =>
    by_cases last : n / 36 = 0
    · have small : n < 36 := by omega
      refine ⟨n, Nat.pos_of_ne_zero notZero, small, ?_⟩
      rw [last, base36From, if_pos rfl, Nat.mod_eq_of_lt small]
      rfl
    · exact ih last

theorem valueFrom_base36 (n : Nat) : valueFrom 0 (base36 n) = n := by
  unfold base36
  split
  · rename_i zero
    rw [zero]
    rfl
  · exact valueFrom_base36From [] n

theorem isBase36_base36 (n : Nat) : ∀ c ∈ base36 n, IsBase36 c := by
  unfold base36
  split
  · decide
  · exact isBase36_base36From (List.forall_mem_nil _) n

theorem head_base36 (notZero : n ≠ 0) :
    ∃ c s, base36 n = c :: s ∧ IsBase36 c ∧ c ≠ '0' := by
  have different : ∀ k < 36, 0 < k → base36Digit k ≠ '0' := by decide
  obtain ⟨k, positive, small, first⟩ := head_base36From [] notZero
  obtain ⟨s, shape⟩ := List.head?_eq_some_iff.1 first
  refine ⟨base36Digit k, s, ?_, isBase36_base36Digit k small, different k small positive⟩
  rw [base36, if_neg notZero, shape]

theorem base36_ne_nil (n : Nat) : base36 n ≠ [] := by
  by_cases zero : n = 0
  · rw [zero]
    exact List.cons_ne_nil _ _
  · obtain ⟨c, s, shape, -⟩ := head_base36 zero
    rw [shape]
    exact List.cons_ne_nil c s

theorem readBase36?_base36 (n : Nat) : readBase36? (base36 n) = some n := by
  rw [readBase36?, if_pos ⟨base36_ne_nil n, isBase36_base36 n⟩, valueFrom_base36]

/-- No numeral but that of zero has a zero in front. -/
theorem head?_base36_iff (n : Nat) : (base36 n).head? = some '0' ↔ n = 0 := by
  by_cases zero : n = 0
  · rw [zero]
    exact iff_of_true rfl rfl
  · obtain ⟨c, s, shape, -, different⟩ := head_base36 zero
    rw [shape, List.head?_cons, Option.some.injEq]
    exact iff_of_false different zero

/-! ## The order of numerals -/

/-- Of two numerals that go on with as many digits the greater one stays the greater. -/
theorem valueFrom_lt_of_lt (numeral : ∀ c ∈ s, IsBase36 c) (length : s.length = t.length)
    (less : m < n) : valueFrom m s < valueFrom n t := by
  induction s generalizing m n t with
  | nil =>
    rw [List.eq_nil_of_length_eq_zero length.symm]
    exact less
  | cons c s ih =>
    cases t with
    | nil => cases length
    | cons d t =>
      obtain ⟨digit, digits⟩ := List.forall_mem_cons.1 numeral
      have small := digitValue_lt digit
      rw [List.length_cons, List.length_cons, Nat.add_right_cancel_iff] at length
      rw [valueFrom_cons, valueFrom_cons]
      exact ih digits length (by omega)

/-- Numerals of one length are in the order of their texts. -/
theorem valueFrom_lt_iff (numeral : ∀ c ∈ s, IsBase36 c) (other : ∀ c ∈ t, IsBase36 c)
    (length : s.length = t.length) (n : Nat) : valueFrom n s < valueFrom n t ↔ s < t := by
  induction s generalizing n t with
  | nil =>
    rw [List.eq_nil_of_length_eq_zero length.symm]
    exact iff_of_false (Nat.lt_irrefl _) (List.lt_irrefl _)
  | cons c s ih =>
    cases t with
    | nil => cases length
    | cons d t =>
      obtain ⟨digit, digits⟩ := List.forall_mem_cons.1 numeral
      obtain ⟨digit', digits'⟩ := List.forall_mem_cons.1 other
      rw [List.length_cons, List.length_cons, Nat.add_right_cancel_iff] at length
      rw [valueFrom_cons, valueFrom_cons, List.cons_lt_cons_iff]
      -- the first digits decide, and the others only where these are the same
      rcases Nat.lt_trichotomy c.toNat d.toNat with before | same | behind
      · have less := (digitValue_lt_iff digit digit').2 before
        exact iff_of_true (valueFrom_lt_of_lt digits length (by omega)) (Or.inl before)
      · have irreflexive : ¬ d < d := Nat.lt_irrefl d.toNat
        rw [Char.toNat_inj.1 same, ih digits digits' length]
        exact ⟨fun later => Or.inr ⟨rfl, later⟩, fun either => (either.resolve_left irreflexive).2⟩
      · have greater := (digitValue_lt_iff digit' digit).2 behind
        have first : 36 * n + digitValue d < 36 * n + digitValue c := by omega
        refine iff_of_false (Nat.lt_asymm (valueFrom_lt_of_lt digits' length.symm first)) ?_
        rintro (before | ⟨rfl, -⟩)
        · exact Nat.lt_asymm before behind
        · exact Nat.lt_irrefl _ behind

theorem le_valueFrom (n : Nat) (s : List Char) : n ≤ valueFrom n s := by
  induction s generalizing n with
  | nil => exact Nat.le_refl n
  | cons c s ih =>
    have step : n ≤ 36 * n + digitValue c := by omega
    exact Nat.le_trans step (ih (36 * n + digitValue c))

/-- With no zero in front a longer numeral is the greater. -/
theorem valueFrom_lt_of_longer (digits : ∀ c ∈ s, IsBase36 c) (first : IsBase36 c)
    (notZero : c ≠ '0') (length : s.length ≤ t.length) :
    valueFrom 0 s < valueFrom 0 (c :: t) := by
  -- the digits that stand above those of `s` make a number that is not zero
  have split : c :: t = (c :: t.take (t.length - s.length)) ++ t.drop (t.length - s.length) := by
    rw [List.cons_append, List.take_append_drop]
  have positive : 0 < valueFrom 0 (c :: t.take (t.length - s.length)) :=
    Nat.lt_of_lt_of_le (digitValue_pos first notZero) (by
      rw [valueFrom_cons, Nat.mul_zero, Nat.zero_add]
      exact le_valueFrom _ _)
  rw [split, valueFrom_append]
  refine valueFrom_lt_of_lt digits ?_ positive
  rw [List.length_drop]
  omega

theorem lt_of_base36_shorter (shorter : (base36 m).length < (base36 n).length) : m < n := by
  have filled := List.length_pos_iff.2 (base36_ne_nil m)
  have notZero : n ≠ 0 := by
    rintro rfl
    have one : (base36 0).length = 1 := rfl
    omega
  obtain ⟨c, s, shape, first, different⟩ := head_base36 notZero
  have longer : (base36 m).length ≤ s.length := by
    rw [shape, List.length_cons] at shorter
    omega
  have less := valueFrom_lt_of_longer (isBase36_base36 m) first different longer
  rwa [← shape, valueFrom_base36, valueFrom_base36] at less

theorem base36_lt_iff (length : (base36 m).length = (base36 n).length) :
    base36 m < base36 n ↔ m < n := by
  rw [← valueFrom_lt_iff (isBase36_base36 m) (isBase36_base36 n) length 0, valueFrom_base36,
    valueFrom_base36]

/-- **Numerals in base 36 are faithful and ordered.** A numeral reads back as its number; it has
digits and small letters alone, and a zero in front just for zero; and of two numbers the smaller
one has the shorter numeral, or one of the same length that comes first as a text. -/
theorem base36_faithful (n : Nat) :
    readBase36? (base36 n) = some n ∧
      (∀ c ∈ base36 n, ('0' ≤ c ∧ c ≤ '9') ∨ ('a' ≤ c ∧ c ≤ 'z')) ∧
      ((base36 n).head? = some '0' ↔ n = 0) ∧
      ∀ m, m < n ↔ (base36 m).length < (base36 n).length ∨
        (base36 m).length = (base36 n).length ∧ base36 m < base36 n := by
  refine ⟨readBase36?_base36 n, isBase36_base36 n, head?_base36_iff n, fun m => ?_⟩
  rcases Nat.lt_trichotomy (base36 m).length (base36 n).length with shorter | same | longer
  · exact iff_of_true (lt_of_base36_shorter shorter) (Or.inl shorter)
  · rw [base36_lt_iff same]
    simp [same]
  · have greater := lt_of_base36_shorter longer
    refine iff_of_false (Nat.lt_asymm greater) ?_
    omega

/-- The numerals of 1295 and 1296: the last one of two digits, and the first one of three. -/
theorem base36_faithful_three_digits :
    base36 1295 = ['z', 'z'] ∧ base36 1296 = ['1', '0', '0'] ∧
      readBase36? (base36 1295) = some 1295 ∧ 'z' ∈ base36 1295 ∧
      (('0' ≤ 'z' ∧ 'z' ≤ '9') ∨ ('a' ≤ 'z' ∧ 'z' ≤ 'z')) ∧
      (1295 < 1296 ↔ (base36 1295).length < (base36 1296).length ∨
        (base36 1295).length = (base36 1296).length ∧ base36 1295 < base36 1296) := by
  have two : base36 1295 = ['z', 'z'] := by decide +kernel
  have three : base36 1296 = ['1', '0', '0'] := by decide +kernel
  have last : 'z' ∈ base36 1295 := by
    rw [two]
    exact List.mem_cons_self
  obtain ⟨read, digits, -⟩ := base36_faithful 1295
  exact ⟨two, three, read, last, digits 'z' last, (base36_faithful 1296).2.2.2 1295⟩

end Formulary.Form
