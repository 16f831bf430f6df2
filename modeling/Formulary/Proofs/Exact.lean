import Formulary.Proofs.Numeral
import Formulary.Script.Value
import Mathlib.Algebra.Order.Ring.Nat
import Mathlib.Tactic.Positivity.Core

/-!
# Whole numbers as doubles

A natural number below `2 ^ 53` is a double exactly (`whole_ofRatio`), so an integer below the limit
of whole numbers is written, read and kept without loss: `ofText?_digits` and `ofNumber_whole`.
-/

namespace Formulary.Binary64

open Decimal

/-- The double is this whole number with a sign: a multiple of a power of two, over that power. -/
def Whole (x : Binary64) (negative : Bool) (n : Nat) : Prop :=
  ∃ (m k : Nat) (canonical : Canonical m (-k)),
    m = n * 2 ^ k ∧ x = .finite negative m (-k) canonical

theorem whole_zero (negative : Bool) : Whole (zero negative) negative 0 :=
  ⟨0, 1074, canonical_zero, (Nat.zero_mul _).symm, rfl⟩

theorem inUnitsOf_neg (k num den : Nat) : inUnitsOf (-k) num den = (num * 2 ^ k, den) := by
  cases k with
  | zero => simp [inUnitsOf]
  | succ k => rfl

theorem roundedQuotient_one (n : Nat) : roundedQuotient n 1 = n := by
  unfold roundedQuotient
  simp [Nat.mod_one]

/-- A number of 53 bits or less lies on the grid of its own length. -/
theorem gridExponent_small {n : Nat} (positive : n ≠ 0) (small : n < 2 ^ 53) :
    ∃ k : Nat, gridExponent n 1 = -k ∧ 2 ^ 52 ≤ n * 2 ^ k ∧ n * 2 ^ k < 2 ^ 53 ∧ k ≤ 52 := by
  have short : n.log2 < 53 := (Nat.log2_lt positive).2 small
  have low := Nat.log2_self_le positive
  have high := Nat.lt_log2_self (n := n)
  have scaled (k : Nat) (total : n.log2 + k = 52) : 2 ^ 52 ≤ n * 2 ^ k ∧ n * 2 ^ k < 2 ^ 53 := by
    constructor
    · calc 2 ^ 52 = 2 ^ n.log2 * 2 ^ k := by rw [← Nat.pow_add, total]
        _ ≤ n * 2 ^ k := Nat.mul_le_mul_right _ low
    · calc n * 2 ^ k < 2 ^ (n.log2 + 1) * 2 ^ k :=
            Nat.mul_lt_mul_of_pos_right high (Nat.two_pow_pos k)
        _ = 2 ^ 53 := by rw [← Nat.pow_add]; congr 1; omega
  obtain ⟨k, total⟩ : ∃ k, n.log2 + k = 52 := ⟨52 - n.log2, by omega⟩
  refine ⟨k, ?_, (scaled k total).1, (scaled k total).2, by omega⟩
  have guess : Max.max ((n.log2 : Int) - ((1 : Nat).log2 : Int) - 53) (-1074) =
      -((k + 1 : Nat) : Int) := by
    have one : (1 : Nat).log2 = 0 := by decide
    rw [one]
    omega
  have long : 2 ^ 53 ≤ n * 2 ^ (k + 1) / 1 := by
    calc 2 ^ 53 = 2 ^ 52 * 2 := rfl
      _ ≤ n * 2 ^ k * 2 := Nat.mul_le_mul_right 2 (scaled k total).1
      _ = n * 2 ^ (k + 1) / 1 := by rw [Nat.div_one, Nat.pow_succ, Nat.mul_assoc]
  unfold gridExponent
  simp only [guess, inUnitsOf_neg, if_pos long]
  omega

theorem whole_ofRatio (negative : Bool) {n : Nat} (small : n < 2 ^ 53) :
    Whole (ofRatio negative n 1) negative n := by
  by_cases none : n = 0
  · rw [none]
    exact whole_zero negative
  · obtain ⟨k, grid, low, high, short⟩ := gridExponent_small none small
    have canonical : Canonical (n * 2 ^ k) (-k) := ⟨high, by omega, by omega, Or.inl low⟩
    refine ⟨n * 2 ^ k, k, canonical, rfl, ?_⟩
    unfold ofRatio
    rw [if_neg none]
    simp only [grid, inUnitsOf_neg, roundedQuotient_one]
    rw [if_neg high.ne]
    exact dif_pos canonical

theorem whole_ofInt {n : Nat} (small : n < 2 ^ 53) : Whole (ofInt n) false n := by
  have whole := whole_ofRatio false small
  have sign : (if (n : Int) = 0 then false else decide ((n : Int) < 0)) = false := by
    split
    · rfl
    · exact decide_eq_false (by omega)
  unfold ofInt ofScaledInt
  dsimp only
  rw [sign]
  show Whole (ofRatio false (n * 2 ^ 0) 1) false n
  rwa [Nat.pow_zero, Nat.mul_one]

/-! ## Reading it back -/

theorem Whole.neg {x : Binary64} {negative : Bool} {n : Nat} (whole : Whole x negative n) :
    Whole x.neg (!negative) n := by
  obtain ⟨m, k, canonical, scaled, rfl⟩ := whole
  exact ⟨m, k, canonical, scaled, rfl⟩

theorem Whole.isIntegral {x : Binary64} {negative : Bool} {n : Nat} (whole : Whole x negative n) :
    x.isIntegral = true := by
  obtain ⟨m, k, canonical, scaled, rfl⟩ := whole
  cases k with
  | zero => rfl
  | succ k => exact decide_eq_true (by rw [scaled, Nat.mul_mod_left])

theorem signed_mul (negative : Bool) (n p : Nat) :
    signed negative (n * p) = signed negative n * (p : Int) := by
  cases negative with
  | true => simp [signed]
  | false => simp [signed]

theorem Whole.toIntWithin {x : Binary64} {negative : Bool} {n : Nat} (whole : Whole x negative n)
    (lo hi : Int) : x.toIntWithin lo hi = Max.max lo (Min.min hi (signed negative n)) := by
  obtain ⟨m, k, canonical, rfl, rfl⟩ := whole
  cases k with
  | zero =>
    show Max.max lo (Min.min hi (signed negative (n * 2 ^ 0) * 2 ^ 0)) = _
    simp
  | succ k =>
    show Max.max lo (Min.min hi (Int.tdiv (signed negative (n * 2 ^ (k + 1))) (2 ^ (k + 1)))) = _
    have power : ((2 ^ (k + 1) : Nat) : Int) = 2 ^ (k + 1) := by simp
    have positive : (2 : Int) ^ (k + 1) ≠ 0 := (Int.pow_pos (by decide)).ne'
    rw [signed_mul, power, Int.mul_tdiv_cancel _ positive]

theorem Whole.toInt64 {x : Binary64} {negative : Bool} {n : Nat} (whole : Whole x negative n)
    (small : n < 2 ^ 53) : x.toInt64 = signed negative n := by
  unfold Binary64.toInt64
  rw [whole.toIntWithin]
  unfold signed
  split <;> omega

theorem Whole.abs_lt {x y : Binary64} {negative : Bool} {n limit : Nat}
    (whole : Whole x negative n) (whole' : Whole y false limit) (below : n < limit) :
    x.abs.lt y = true := by
  obtain ⟨m, k, canonical, rfl, rfl⟩ := whole
  obtain ⟨m', k', canonical', rfl, rfl⟩ := whole'
  -- over the smaller exponent both numbers are multiplied by one power of two
  have total : k + ((-(k : Int)) - Min.min (-(k : Int)) (-k')).toNat =
      k' + ((-(k' : Int)) - Min.min (-(k : Int)) (-k')).toNat := by
    omega
  have less : ((n * 2 ^ k : Nat) : Int) * 2 ^ ((-(k : Int)) - Min.min (-(k : Int)) (-k')).toNat <
      ((limit * 2 ^ k' : Nat) : Int) * 2 ^ ((-(k' : Int)) - Min.min (-(k : Int)) (-k')).toNat := by
    generalize ((-(k : Int)) - Min.min (-(k : Int)) (-k')).toNat = i at total
    generalize ((-(k' : Int)) - Min.min (-(k : Int)) (-k')).toNat = j at total
    have scaled : n * 2 ^ k * 2 ^ i < limit * 2 ^ k' * 2 ^ j := by
      rw [Nat.mul_assoc, Nat.mul_assoc, ← Nat.pow_add, ← Nat.pow_add, total]
      exact Nat.mul_lt_mul_of_pos_right below (Nat.two_pow_pos _)
    exact_mod_cast scaled
  exact congrArg (fun order => some order == some Ordering.lt) (compare_lt_iff_lt.2 less)

end Formulary.Binary64

namespace Formulary

open Binary64 Decimal

/-- **A whole number below the limit is written as the integer that it is.** -/
theorem wholeNumber?_whole {x : Binary64} {negative : Bool} {n : Nat}
    (whole : Whole x negative n) (below : n < 9000000000000000) :
    wholeNumber? x = some (signed negative n) := by
  have limit : Whole wholeLimit false 9000000000000000 := whole_ofRatio false (by decide)
  unfold wholeNumber?
  rw [whole.isIntegral, whole.abs_lt limit below, whole.toInt64 (by omega)]
  rfl

theorem ofNumber_whole {x : Binary64} {negative : Bool} {n : Nat} (whole : Whole x negative n)
    (below : n < 9000000000000000) : Json.ofNumber x = .int (signed negative n) := by
  unfold Json.ofNumber
  rw [wholeNumber?_whole whole below]

/-- A natural number is read from its digits. -/
theorem ofText?_digits {n : Nat} (small : n < 2 ^ 53) :
    ∃ x, Binary64.ofText? (digits n) = some x ∧ Whole x false n := by
  have run := isDigits_digits n
  obtain ⟨c, r, shape, digit⟩ := (isNumeral_digits run).head
  have mantissa : Binary64.readMantissa (digits n) = some (n, 0, []) := by
    rw [Script.readMantissa_digits run, ofDigits_digits]
  have decimal : Binary64.ofDecimal false ⟨n, 0⟩ = ofRatio false n 1 := by
    have short : (digits n).length ≤ 16 :=
      (Nat.length_toDigits_le_iff (by decide) (by decide)).2 (by omega)
    unfold ofDecimal
    by_cases none : n = 0
    · rw [if_pos none, none]
      rfl
    · dsimp only
      rw [if_neg none, if_neg (by omega), if_neg (by omega), Nat.pow_zero, Nat.mul_one]
  refine ⟨ofRatio false n 1, ?_, whole_ofRatio false small⟩
  rw [shape, Script.ofText?_of_isDigit digit, ← shape, mantissa, ← decimal]
  rfl

end Formulary
