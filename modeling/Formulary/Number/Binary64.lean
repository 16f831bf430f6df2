import Formulary.Number.Whole

/-!
# Doubles

A double is not a number, an infinity, or a signed mantissa times a power of two. Arithmetic is
exact arithmetic on that reading followed by one rounding to the nearest double, ties to the even
mantissa; `Binary64.ofRatio` is that rounding, for every quotient of natural numbers.
-/

namespace Formulary

/-- `mantissa · 2 ^ exponent` is a magnitude of a double, and the pair is the only one for it. -/
def Binary64.Canonical (mantissa : Nat) (exponent : Int) : Prop :=
  mantissa < 2 ^ 53 ∧ -1074 ≤ exponent ∧ exponent ≤ 971 ∧ (2 ^ 52 ≤ mantissa ∨ exponent = -1074)

instance (m : Nat) (e : Int) : Decidable (Binary64.Canonical m e) :=
  inferInstanceAs (Decidable (_ ∧ _ ∧ _ ∧ _))

/-- A double. `finite n m e` stands for `m · 2 ^ e`, below zero when `n` holds. -/
inductive Binary64 where
  | nan
  | infinite (negative : Bool)
  | finite (negative : Bool) (mantissa : Nat) (exponent : Int)
      (canonical : Binary64.Canonical mantissa exponent)
  deriving DecidableEq

namespace Binary64

/-! ## Rounding -/

/-- The natural number nearest to `num / den`; a half goes to the even neighbour. -/
def roundedQuotient (num den : Nat) : Nat :=
  let floor := num / den
  let rest := 2 * (num % den)
  if rest < den then floor
  else if den < rest then floor + 1
  else floor + floor % 2

/-- `num / den` measured in units of `2 ^ exponent`, as a numerator and a denominator. -/
def inUnitsOf (exponent : Int) (num den : Nat) : Nat × Nat :=
  match exponent with
  | .ofNat k => (num, den * 2 ^ k)
  | .negSucc k => (num * 2 ^ (k + 1), den)

/-- The exponent of the grid of doubles around `num / den`. The first guess is at most one too
low, which shows in a quotient of more than 53 bits. -/
def gridExponent (num den : Nat) : Int :=
  let guess := max ((num.log2 : Int) - den.log2 - 53) (-1074)
  let (n, d) := inUnitsOf guess num den
  if 2 ^ 53 ≤ n / d then guess + 1 else guess

/-- `mantissa · 2 ^ exponent` with its sign, infinite when no double is that large. -/
def ofParts (negative : Bool) (mantissa : Nat) (exponent : Int) : Binary64 :=
  if h : Canonical mantissa exponent then .finite negative mantissa exponent h
  else .infinite negative

theorem canonical_zero : Canonical 0 (-1074) := by decide

/-- Zero with a sign. -/
def zero (negative : Bool) : Binary64 := .finite negative 0 (-1074) canonical_zero

/-- The double nearest to `num / den`, negated when `negative` holds. -/
def ofRatio (negative : Bool) (num den : Nat) : Binary64 :=
  if num = 0 then zero negative
  else
    let exponent := gridExponent num den
    let (n, d) := inUnitsOf exponent num den
    let mantissa := roundedQuotient n d
    if mantissa = 2 ^ 53 then ofParts negative (2 ^ 52) (exponent + 1)
    else ofParts negative mantissa exponent

/-- The double nearest to `mantissa · 2 ^ exponent`; zero takes the sign `zeroNegative`. -/
def ofScaledInt (mantissa : Int) (exponent : Int) (zeroNegative : Bool) : Binary64 :=
  let negative := if mantissa = 0 then zeroNegative else decide (mantissa < 0)
  match exponent with
  | .ofNat k => ofRatio negative (mantissa.natAbs * 2 ^ k) 1
  | .negSucc k => ofRatio negative mantissa.natAbs (2 ^ (k + 1))

/-- The double nearest to an integer. -/
def ofInt (n : Int) : Binary64 := ofScaledInt n 0 false

/-- The double nearest to a natural number. -/
def ofNat (n : Nat) : Binary64 := ofRatio false n 1

instance (n : Nat) : OfNat Binary64 n := ⟨ofNat n⟩

/-- One half. -/
def half : Binary64 := ofRatio false 1 2

/-! ## Views -/

/-- Neither an infinity nor not-a-number. -/
def isFinite : Binary64 → Bool
  | .finite .. => true
  | _ => false

def isNaN : Binary64 → Bool
  | .nan => true
  | _ => false

/-- A mantissa with its sign. -/
def signed (negative : Bool) (mantissa : Nat) : Int :=
  if negative then -(mantissa : Int) else mantissa

/-- The two mantissas of `m₁ · 2 ^ e₁` and `m₂ · 2 ^ e₂` over their smaller exponent. -/
def aligned (m₁ e₁ m₂ e₂ : Int) : Int × Int × Int :=
  let e := min e₁ e₂
  (m₁ * 2 ^ (e₁ - e).toNat, m₂ * 2 ^ (e₂ - e).toNat, e)

/-! ## Arithmetic -/

def neg : Binary64 → Binary64
  | .nan => .nan
  | .infinite n => .infinite (!n)
  | .finite n m e h => .finite (!n) m e h

def abs : Binary64 → Binary64
  | .nan => .nan
  | .infinite _ => .infinite false
  | .finite _ m e h => .finite false m e h

/-- A sum of zeros is negative only when both are. -/
def add : Binary64 → Binary64 → Binary64
  | .nan, _ | _, .nan => .nan
  | .infinite a, .infinite b => if a = b then .infinite a else .nan
  | .infinite a, .finite .. => .infinite a
  | .finite .., .infinite b => .infinite b
  | .finite n₁ m₁ e₁ _, .finite n₂ m₂ e₂ _ =>
    let (a, b, e) := aligned (signed n₁ m₁) e₁ (signed n₂ m₂) e₂
    ofScaledInt (a + b) e (m₁ = 0 ∧ m₂ = 0 ∧ n₁ ∧ n₂)

def sub (x y : Binary64) : Binary64 := add x (neg y)

def mul : Binary64 → Binary64 → Binary64
  | .nan, _ | _, .nan => .nan
  | .infinite a, .infinite b => .infinite (a != b)
  | .infinite a, .finite b m .. => if m = 0 then .nan else .infinite (a != b)
  | .finite a m .., .infinite b => if m = 0 then .nan else .infinite (a != b)
  | .finite n₁ m₁ e₁ _, .finite n₂ m₂ e₂ _ =>
    ofScaledInt (signed (n₁ != n₂) (m₁ * m₂)) (e₁ + e₂) (n₁ != n₂)

/-- Division by zero gives an infinity, save `0 / 0`. -/
def div : Binary64 → Binary64 → Binary64
  | .nan, _ | _, .nan => .nan
  | .infinite _, .infinite _ => .nan
  | .infinite a, .finite b .. => .infinite (a != b)
  | .finite a .., .infinite b => zero (a != b)
  | .finite n₁ m₁ e₁ _, .finite n₂ m₂ e₂ _ =>
    if m₂ = 0 then if m₁ = 0 then .nan else .infinite (n₁ != n₂)
    else
      match e₁ - e₂ with
      | .ofNat k => ofRatio (n₁ != n₂) (m₁ * 2 ^ k) m₂
      | .negSucc k => ofRatio (n₁ != n₂) m₁ (m₂ * 2 ^ (k + 1))

/-- The remainder of division toward zero; it has the sign of the dividend. -/
def rem : Binary64 → Binary64 → Binary64
  | .nan, _ | _, .nan => .nan
  | .infinite _, _ => .nan
  | .finite n m e h, .infinite _ => .finite n m e h
  | .finite n₁ m₁ e₁ _, .finite _ m₂ e₂ _ =>
    if m₂ = 0 then .nan
    else
      let (a, b, e) := aligned m₁ e₁ m₂ e₂
      ofScaledInt (signed n₁ (a.natAbs % b.natAbs)) e n₁

/-! ## Whole parts -/

/-- The numerator and the power of two below it of a finite double with a fraction. -/
def mapWhole (whole : (num den : Int) → Int) : Binary64 → Binary64
  | .finite n m (.negSucc k) _ => ofScaledInt (whole (signed n m) (2 ^ (k + 1))) 0 n
  | x => x

def floor : Binary64 → Binary64 := mapWhole Int.fdiv

def ceil : Binary64 → Binary64 := mapWhole fun a b => -Int.fdiv (-a) b

/-- A finite double without a fraction. -/
def isIntegral : Binary64 → Bool
  | .finite _ _ (.ofNat _) _ => true
  | .finite _ m (.negSucc k) _ => m % 2 ^ (k + 1) = 0
  | _ => false

/-- The whole part held to `lo .. hi`; not-a-number counts as zero. -/
def toIntWithin (lo hi : Int) : Binary64 → Int
  | .nan => 0
  | .infinite n => if n then lo else hi
  | .finite n m (.ofNat k) _ => max lo (min hi (signed n m * 2 ^ k))
  | .finite n m (.negSucc k) _ => max lo (min hi (Int.tdiv (signed n m) (2 ^ (k + 1))))

/-- The whole part, held to the range of a signed 64-bit integer. -/
def toInt64 : Binary64 → Int := toIntWithin (-2 ^ 63) (2 ^ 63 - 1)

/-- The whole part, held to the range of an unsigned 64-bit integer. -/
def toNat64 (x : Binary64) : Nat := (x.toIntWithin 0 (2 ^ 64 - 1)).toNat

/-! ## Order -/

/-- The order of the values; not-a-number compares with nothing, and both zeros are equal. -/
def compare? : Binary64 → Binary64 → Option Ordering
  | .nan, _ | _, .nan => none
  | .infinite a, .infinite b =>
    some (if a = b then .eq else if a then .lt else .gt)
  | .infinite a, .finite .. => some (if a then .lt else .gt)
  | .finite .., .infinite b => some (if b then .gt else .lt)
  | .finite n₁ m₁ e₁ _, .finite n₂ m₂ e₂ _ =>
    let (a, b, _) := aligned (signed n₁ m₁) e₁ (signed n₂ m₂) e₂
    some (compare a b)

/-- The values are equal: not-a-number equals nothing, and the zeros equal each other. -/
def sameValue (x y : Binary64) : Bool := compare? x y == some .eq

def lt (x y : Binary64) : Bool := compare? x y == some .lt

def le (x y : Binary64) : Bool := x.lt y || x.sameValue y

def isZero (x : Binary64) : Bool := x.sameValue 0

/-- The smaller value; a number wins over not-a-number. -/
def min (x y : Binary64) : Binary64 :=
  if x.isNaN then y else if y.lt x then y else x

/-- The larger value; a number wins over not-a-number. -/
def max (x y : Binary64) : Binary64 :=
  if x.isNaN then y else if x.lt y then y else x

end Binary64

end Formulary
