import Formulary.Proofs.Exact

/-!
# Rounding depends on the quotient alone

`Grid num den e` says that `2 ^ e` is the unit of the doubles around `num / den`. There is one such
unit for each quotient, however it is written, and `gridExponent` finds it.

* `ofRatio_scale`: rounding a quotient does not depend on how it is written.
* `ofRatio_eq_finite`: a quotient that is a double is its own rounding.
-/

namespace Formulary.Binary64

variable {num den : Nat} {e : Int}

theorem inUnitsOf_eq (e : Int) (num den : Nat) :
    inUnitsOf e num den = (num * 2 ^ (-e).toNat, den * 2 ^ e.toNat) := by
  cases e with
  | ofNat k => simp [inUnitsOf]
  | negSucc k => simp [inUnitsOf]

/-! ## The grid around a quotient -/

/-- The quotient is less than `2 ^ 53` units of `2 ^ e`. -/
def Short (num den : Nat) (e : Int) : Prop :=
  num * 2 ^ (-e).toNat < 2 ^ 53 * (den * 2 ^ e.toNat)

/-- The unit of the doubles around a quotient: the quotient is short in it, and it is the least such
unit that doubles have. -/
structure Grid (num den : Nat) (e : Int) : Prop where
  least : -1074 ≤ e
  short : Short num den e
  tight : e = -1074 ∨ ¬ Short num den (e - 1)

/-- Powers of two on both sides count by their difference. -/
theorem short_iff {a b : Nat} (apart : (b : Int) - a = e) :
    Short num den e ↔ num * 2 ^ a < 2 ^ 53 * (den * 2 ^ b) := by
  obtain ⟨k, left, right⟩ : ∃ k, a = (-e).toNat + k ∧ b = e.toNat + k :=
    ⟨a - (-e).toNat, by omega, by omega⟩
  have common : ∀ i, 2 ^ (i + k) = 2 ^ i * 2 ^ k := fun i => Nat.pow_add 2 i k
  rw [Short, left, right, common, common, ← Nat.mul_assoc num, ← Nat.mul_assoc den,
    ← Nat.mul_assoc (2 ^ 53) (den * 2 ^ e.toNat), Nat.mul_lt_mul_right (Nat.two_pow_pos k)]

theorem Short.mono {e' : Int} (short : Short num den e) (le : e ≤ e') : Short num den e' := by
  obtain ⟨k, rfl⟩ := Int.le.dest le
  refine (short_iff (a := (-e).toNat) (b := e.toNat + k) (by omega)).2 (short.trans_le ?_)
  refine Nat.mul_le_mul_left _ (Nat.mul_le_mul_left _ ?_)
  exact Nat.pow_le_pow_right (by decide) (Nat.le_add_right _ _)

theorem short_scale {c : Nat} (positive : 0 < c) :
    Short (num * c) (den * c) e ↔ Short num den e := by
  unfold Short
  rw [Nat.mul_right_comm num, Nat.mul_right_comm den, ← Nat.mul_assoc (2 ^ 53),
    Nat.mul_lt_mul_right positive]

/-- The lengths of numerator and denominator bound the quotient from above. -/
theorem short_of_log2 (positive : den ≠ 0) (long : (num.log2 : Int) + 1 ≤ 53 + den.log2 + e) :
    Short num den e := by
  have above := Nat.lt_log2_self (n := num)
  have below := Nat.log2_self_le positive
  calc num * 2 ^ (-e).toNat < 2 ^ (num.log2 + 1) * 2 ^ (-e).toNat :=
        Nat.mul_lt_mul_of_pos_right above (Nat.two_pow_pos _)
    _ = 2 ^ (num.log2 + 1 + (-e).toNat) := (Nat.pow_add ..).symm
    _ ≤ 2 ^ (53 + (den.log2 + e.toNat)) := Nat.pow_le_pow_right (by decide) (by omega)
    _ = 2 ^ 53 * (2 ^ den.log2 * 2 ^ e.toNat) := by rw [Nat.pow_add, Nat.pow_add]
    _ ≤ 2 ^ 53 * (den * 2 ^ e.toNat) := Nat.mul_le_mul_left _ (Nat.mul_le_mul_right _ below)

/-- And from below. -/
theorem not_short_of_log2 (positive : num ≠ 0)
    (long : 53 + ((den.log2 : Int) + 1) + e ≤ num.log2) : ¬ Short num den e := by
  have above := Nat.lt_log2_self (n := den)
  have below := Nat.log2_self_le positive
  refine Nat.not_lt.2 ?_
  calc 2 ^ 53 * (den * 2 ^ e.toNat) ≤ 2 ^ 53 * (2 ^ (den.log2 + 1) * 2 ^ e.toNat) :=
        Nat.mul_le_mul_left _ (Nat.mul_le_mul_right _ above.le)
    _ = 2 ^ (53 + (den.log2 + 1 + e.toNat)) := by rw [Nat.pow_add 2 53, Nat.pow_add 2 _ e.toNat]
    _ ≤ 2 ^ (num.log2 + (-e).toNat) := Nat.pow_le_pow_right (by decide) (by omega)
    _ = 2 ^ num.log2 * 2 ^ (-e).toNat := Nat.pow_add ..
    _ ≤ num * 2 ^ (-e).toNat := Nat.mul_le_mul_right _ below

/-- **The exponent that rounding uses is that of the grid around the quotient.** -/
theorem grid_gridExponent (num0 : num ≠ 0) (den0 : den ≠ 0) :
    Grid num den (gridExponent num den) := by
  have short (e : Int) : Short num den e ↔ ¬ 2 ^ 53 ≤ (inUnitsOf e num den).1 /
      (inUnitsOf e num den).2 := by
    have positive : 0 < den * 2 ^ e.toNat :=
      Nat.mul_pos (Nat.pos_of_ne_zero den0) (Nat.two_pow_pos _)
    rw [inUnitsOf_eq, Nat.le_div_iff_mul_le positive, Nat.not_le, Short]
  unfold gridExponent
  dsimp only
  -- the first guess is one too low, or the exponent of the grid
  split
  · rename_i long
    have low := (not_congr (short _)).2 (not_not_intro long)
    refine ⟨by omega, short_of_log2 den0 (by omega), Or.inr ?_⟩
    rwa [Int.add_sub_cancel]
  · rename_i fits
    refine ⟨by omega, (short _).2 fits, ?_⟩
    by_cases least : (num.log2 : Int) - den.log2 - 53 ≤ -1074
    · exact Or.inl (by omega)
    · exact Or.inr (not_short_of_log2 num0 (by omega))

theorem Grid.unique {e' : Int} (grid : Grid num den e) (grid' : Grid num den e') : e = e' := by
  have atMost {i j : Int} (first : Grid num den i) (second : Grid num den j) : i ≤ j := by
    rcases first.tight with lowest | long
    · exact lowest ▸ second.least
    · by_contra beyond
      exact long (second.short.mono (by omega))
  exact Int.le_antisymm (atMost grid grid') (atMost grid' grid)

theorem grid_scale {c : Nat} (positive : 0 < c) (grid : Grid num den e) :
    Grid (num * c) (den * c) e :=
  ⟨grid.least, (short_scale positive).2 grid.short,
    grid.tight.imp_right fun long short => long ((short_scale positive).1 short)⟩

/-! ## Rounding -/

theorem roundedQuotient_scale {c : Nat} (positive : 0 < c) :
    roundedQuotient (num * c) (den * c) = roundedQuotient num den := by
  have doubled : 2 * (num % den * c) = 2 * (num % den) * c := (Nat.mul_assoc ..).symm
  unfold roundedQuotient
  dsimp only
  rw [Nat.mul_div_mul_right _ _ positive, Nat.mul_mod_mul_right, doubled]
  simp only [Nat.mul_lt_mul_right positive]

/-- **Rounding a quotient does not depend on how it is written.** -/
theorem ofRatio_scale (negative : Bool) {c : Nat} (positive : 0 < c) (den0 : den ≠ 0) :
    ofRatio negative (num * c) (den * c) = ofRatio negative num den := by
  by_cases none : num = 0
  · rw [none, Nat.zero_mul]
    rfl
  · have same : gridExponent (num * c) (den * c) = gridExponent num den := by
      refine Grid.unique (grid_gridExponent ?_ ?_)
        (grid_scale positive (grid_gridExponent none den0))
      · exact Nat.mul_ne_zero none positive.ne'
      · exact Nat.mul_ne_zero den0 positive.ne'
    have units (e : Int) : inUnitsOf e (num * c) (den * c) =
        ((inUnitsOf e num den).1 * c, (inUnitsOf e num den).2 * c) := by
      simp only [inUnitsOf_eq, Nat.mul_right_comm _ c]
    unfold ofRatio
    rw [if_neg none, if_neg (Nat.mul_ne_zero none positive.ne')]
    dsimp only
    rw [same, units, roundedQuotient_scale positive]

theorem roundedQuotient_mul (m : Nat) (positive : 0 < den) : roundedQuotient (m * den) den = m := by
  have whole : roundedQuotient (m * den) (1 * den) = roundedQuotient m 1 :=
    roundedQuotient_scale positive
  rw [Nat.one_mul] at whole
  rw [whole, roundedQuotient_one]

/-- **A quotient that is a double is its own rounding.** -/
theorem ofRatio_eq_finite (negative : Bool) {m : Nat} (canonical : Canonical m e) (den0 : den ≠ 0)
    (exact : num * 2 ^ (-e).toNat = m * (den * 2 ^ e.toNat)) :
    ofRatio negative num den = .finite negative m e canonical := by
  have positive : 0 < den * 2 ^ e.toNat :=
    Nat.mul_pos (Nat.pos_of_ne_zero den0) (Nat.two_pow_pos _)
  obtain ⟨small, least, greatest, normal⟩ := canonical
  by_cases none : m = 0
  · subst none
    have lowest : e = -1074 := normal.resolve_left (by decide)
    have empty : num = 0 := by
      rw [Nat.zero_mul] at exact
      exact (Nat.mul_eq_zero.1 exact).resolve_right (Nat.two_pow_pos _).ne'
    subst lowest
    rw [empty]
    rfl
  · have filled : num ≠ 0 := by
      rintro rfl
      rw [Nat.zero_mul] at exact
      exact none ((Nat.mul_eq_zero.1 exact.symm).resolve_right positive.ne')
    have grid : Grid num den e := by
      refine ⟨least, ?_, normal.symm.imp_right fun large => ?_⟩
      · rw [Short, exact]
        exact Nat.mul_lt_mul_of_pos_right small positive
      · -- one unit lower the mantissa would have more than 53 bits
        rw [short_iff (a := (-e).toNat + 1) (b := e.toNat) (by omega), Nat.pow_succ,
          ← Nat.mul_assoc, exact, Nat.not_lt, Nat.mul_right_comm]
        exact Nat.mul_le_mul_right _ (by omega)
    have same := (grid_gridExponent filled den0).unique grid
    unfold ofRatio
    rw [if_neg filled]
    dsimp only
    rw [same, inUnitsOf_eq, exact, roundedQuotient_mul m positive, if_neg (by omega)]
    exact dif_pos _

end Formulary.Binary64
