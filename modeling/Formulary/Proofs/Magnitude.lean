import Formulary.Proofs.Exact
import Mathlib.Algebra.Order.Field.Rat
import Mathlib.Algebra.Order.GroupWithZero.Bounds
import Mathlib.Tactic.Ring

/-!
# Finite doubles in order

A finite double is a rational number (`toRat`), and doubles compare as these numbers do.
-/

namespace Formulary.Binary64

variable {x y : Binary64}

/-- The number that a finite double is. -/
def toRat : Binary64 → ℚ
  | .finite negative m e _ => signed negative m * 2 ^ e
  | _ => 0

/-- Over a common exponent the mantissas compare as the numbers. -/
theorem compare_aligned (a b i j : Int) :
    compare (aligned a i b j).1 (aligned a i b j).2.1 =
      compare ((a : ℚ) * 2 ^ i) ((b : ℚ) * 2 ^ j) := by
  have scaled (c k : Int) (le : Min.min i j ≤ k) :
      (c : ℚ) * 2 ^ k = ((c * 2 ^ (k - Min.min i j).toNat : Int) : ℚ) * 2 ^ Min.min i j := by
    have power : (2 : ℚ) ^ k = 2 ^ (k - Min.min i j).toNat * 2 ^ Min.min i j := by
      rw [← zpow_natCast, ← zpow_add₀ (by norm_num)]
      congr 1
      omega
    push_cast
    rw [power, mul_assoc]
  have positive : (0 : ℚ) < 2 ^ Min.min i j := zpow_pos (by norm_num) _
  rw [scaled a i (Int.min_le_left ..), scaled b j (Int.min_le_right ..)]
  show compare (a * 2 ^ (i - Min.min i j).toNat) (b * 2 ^ (j - Min.min i j).toNat) = _
  generalize a * 2 ^ (i - Min.min i j).toNat = p
  generalize b * 2 ^ (j - Min.min i j).toNat = q
  rcases lt_trichotomy p q with less | rfl | more
  · rw [compare_lt_iff_lt.2 less, compare_lt_iff_lt.2]
    exact (mul_lt_mul_iff_left₀ positive).2 (Int.cast_lt.2 less)
  · rw [compare_eq_iff_eq.2 rfl, compare_eq_iff_eq.2 rfl]
  · rw [compare_gt_iff_gt.2 more, compare_gt_iff_gt.2]
    exact (mul_lt_mul_iff_left₀ positive).2 (Int.cast_lt.2 more)

/-- **Finite doubles compare as the numbers they are.** -/
theorem compare?_eq (finite : x.isFinite = true) (finite' : y.isFinite = true) :
    x.compare? y = some (compare x.toRat y.toRat) := by
  cases x with
  | nan | infinite => cases finite
  | finite n m e canonical =>
    cases y with
    | nan | infinite => cases finite'
    | finite n' m' e' canonical' => exact congrArg some (compare_aligned _ _ _ _)

theorem lt_iff (finite : x.isFinite = true) (finite' : y.isFinite = true) :
    x.lt y = true ↔ x.toRat < y.toRat := by
  rw [lt, compare?_eq finite finite', ← compare_lt_iff_lt]
  simp

theorem sameValue_iff (finite : x.isFinite = true) (finite' : y.isFinite = true) :
    x.sameValue y = true ↔ x.toRat = y.toRat := by
  rw [sameValue, compare?_eq finite finite', ← compare_eq_iff_eq]
  simp

theorem le_iff (finite : x.isFinite = true) (finite' : y.isFinite = true) :
    x.le y = true ↔ x.toRat ≤ y.toRat := by
  rw [le, Bool.or_eq_true, lt_iff finite finite', sameValue_iff finite finite', le_iff_lt_or_eq]

theorem Whole.isFinite {negative : Bool} {n : Nat} (whole : Whole x negative n) :
    x.isFinite = true := by
  obtain ⟨m, k, canonical, -, rfl⟩ := whole
  rfl

theorem Whole.toRat {negative : Bool} {n : Nat} (whole : Whole x negative n) :
    x.toRat = signed negative n := by
  obtain ⟨m, k, canonical, rfl, rfl⟩ := whole
  have power : (2 : ℚ) ^ k * 2 ^ (-(k : Int)) = 1 := by
    rw [zpow_neg, zpow_natCast]
    exact mul_inv_cancel₀ (pow_ne_zero k (by norm_num))
  show ((signed negative (n * 2 ^ k) : Int) : ℚ) * 2 ^ (-(k : Int)) = _
  rw [signed_mul]
  push_cast
  rw [mul_assoc, power, mul_one]

end Formulary.Binary64
