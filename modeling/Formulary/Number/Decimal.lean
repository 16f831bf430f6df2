import Formulary.Number.Binary64

/-!
# Decimal numerals of doubles

Reading takes the double nearest to the numeral (`Binary64.ofDecimal`). Writing picks the fewest
digits that read back (`Binary64.shortest`), so every finite double is recovered from its text; a
`Decimal.Layout` then says how the digits are set.
-/

namespace Formulary

/-! ## Digits -/

namespace Decimal

/-- The number that digits spell, after `start`. -/
def ofDigits (start : Nat) (digits : List Char) : Nat :=
  digits.foldl (fun n c => n * 10 + (c.toNat - '0'.toNat)) start

/-- The decimal digits of a number. -/
def digits (n : Nat) : List Char := Nat.toDigits 10 n

/-- `coefficient · 10 ^ exponent`. -/
structure Scaled where
  coefficient : Nat
  exponent : Int
  deriving DecidableEq, Repr

/-- Moves trailing zeros of a coefficient into the exponent. -/
def Scaled.trimmed (s : Scaled) : Scaled :=
  if h : s.coefficient = 0 then ⟨0, 0⟩
  else if s.coefficient % 10 = 0 then Scaled.trimmed ⟨s.coefficient / 10, s.exponent + 1⟩
  else s
termination_by s.coefficient
decreasing_by exact Nat.div_lt_self (Nat.pos_of_ne_zero h) (by decide)

end Decimal

namespace Binary64

open Decimal

/-- The double nearest to `coefficient · 10 ^ exponent`. The first two cases spare the powers of
ten far outside the range of doubles: above `10 ^ 309` all is infinite, and below `10 ^ -324` the
nearest double is zero. -/
def ofDecimal (negative : Bool) (value : Scaled) : Binary64 :=
  if value.coefficient = 0 then zero negative
  else
    let length : Int := (digits value.coefficient).length
    if 310 ≤ length + value.exponent then .infinite negative
    else if length + value.exponent < -323 then zero negative
    else
      match value.exponent with
      | .ofNat k => ofRatio negative (value.coefficient * 10 ^ k) 1
      | .negSucc k => ofRatio negative value.coefficient (10 ^ (k + 1))

/-! ## Reading -/

/-- Digits with an optional point: the coefficient, the number of places, and the rest. -/
def readMantissa (s : List Char) : Option (Nat × Nat × List Char) :=
  let whole := s.takeWhile Char.isDigit
  match s.dropWhile Char.isDigit with
  | '.' :: r =>
    let places := r.takeWhile Char.isDigit
    if whole.isEmpty && places.isEmpty then none
    else some (ofDigits (ofDigits 0 whole) places, places.length, r.dropWhile Char.isDigit)
  | r => if whole.isEmpty then none else some (ofDigits 0 whole, 0, r)

/-- The exponent part of a numeral: a mark, a sign, digits, and nothing after them. -/
def readExponent : List Char → Option Int
  | [] => some 0
  | mark :: r =>
    if mark = 'e' || mark = 'E' then
      let (sign, ds) : Int × List Char := match r with
        | '-' :: ds => (-1, ds)
        | '+' :: ds => (1, ds)
        | ds => (1, ds)
      if ds.isEmpty || !ds.all Char.isDigit then none else some (sign * ofDigits 0 ds)
    else none

/-- A numeral without its sign: `inf`, `infinity` and `nan` in any letter case, or a decimal. -/
def readUnsigned (negative : Bool) (s : List Char) : Option Binary64 :=
  let lower := s.map Char.toLower
  if lower = "inf".toList || lower = "infinity".toList then some (.infinite negative)
  else if lower = "nan".toList then some .nan
  else do
    let (coefficient, places, rest) ← readMantissa s
    let exponent ← readExponent rest
    return ofDecimal negative ⟨coefficient, exponent - places⟩

/-- The double that a whole text spells. -/
def ofText? : List Char → Option Binary64
  | '-' :: s => readUnsigned true s
  | '+' :: s => readUnsigned false s
  | s => readUnsigned false s

end Binary64

/-! ## Shortest digits -/

namespace Decimal

/-- Which of two equally near decimals is written. -/
inductive Tie where
  | even
  | up
  deriving DecidableEq, Repr

/-- The decimal exponent of the leading digit of `num / den`. Counting digits leaves two
candidates. -/
def leadingExponent (num den : Nat) : Int :=
  let guess : Int := (digits num).length - ((digits den).length : Int)
  let reached : Bool := match guess with
    | .ofNat k => den * 10 ^ k ≤ num
    | .negSucc k => den ≤ num * 10 ^ (k + 1)
  if reached then guess else guess - 1

/-- `num / den` measured in units of `10 ^ exponent`. -/
def inUnitsOf (exponent : Int) (num den : Nat) : Nat × Nat :=
  match exponent with
  | .ofNat k => (num, den * 10 ^ k)
  | .negSucc k => (num * 10 ^ (k + 1), den)

/-- Of the neighbours `floor` and `floor + 1` of `n / d`, the nearer one. -/
def nearer (tie : Tie) (n d floor : Nat) : Nat :=
  let rest := 2 * (n - floor * d)
  if rest < d then floor
  else if d < rest then floor + 1
  else match tie with
    | .up => floor + 1
    | .even => floor + floor % 2

/-- The decimal with `count` digits beside `num / den` that `reads` accepts, if there is one. -/
def candidate? (tie : Tie) (reads : Scaled → Bool) (num den : Nat) (leading : Int) (count : Nat) :
    Option Scaled :=
  let exponent := leading - count + 1
  let (n, d) := inUnitsOf exponent num den
  let floor := n / d
  let below : Scaled := ⟨floor, exponent⟩
  let above : Scaled := ⟨floor + 1, exponent⟩
  match reads below, reads above with
  | true, true => some ⟨nearer tie n d floor, exponent⟩
  | true, false => some below
  | false, true => some above
  | false, false => none

/-- The decimal that is exactly `mantissa · 2 ^ exponent`. -/
def expansion (mantissa : Nat) (exponent : Int) : Scaled :=
  match exponent with
  | .ofNat k => ⟨mantissa * 2 ^ k, 0⟩
  | .negSucc k => ⟨mantissa * 5 ^ (k + 1), .negSucc k⟩

end Decimal

open Decimal in
/-- The decimal of fewest digits that reads back as `mantissa · 2 ^ exponent`, without trailing
zeros. Seventeen digits tell all doubles apart; the exact decimal stands for the case that they
would not. -/
def Binary64.shortest (tie : Tie) (mantissa : Nat) (exponent : Int) : Scaled :=
  if mantissa = 0 then ⟨0, 0⟩
  else
    let value := Binary64.ofParts false mantissa exponent
    let reads (s : Scaled) : Bool := Binary64.ofDecimal false s = value
    let (num, den) := match exponent with
      | .ofNat k => (mantissa * 2 ^ k, 1)
      | .negSucc k => (mantissa, 2 ^ (k + 1))
    let leading := leadingExponent num den
    ((List.range' 1 17).findSome? (candidate? tie reads num den leading)
      |>.getD (expansion mantissa exponent)).trimmed

/-! ## Writing -/

namespace Decimal

/-- How digits are set: which leading exponents are written with a plain point, whether a whole
number keeps `.0`, and whether a positive power of ten has its sign. -/
structure Layout where
  tie : Tie
  plain : Int → Bool
  pointZero : Bool
  plus : Bool

/-- Digits with the point `places` from their right end. -/
def Layout.point (layout : Layout) (ds : List Char) (exponent : Int) : List Char :=
  match exponent with
  | .ofNat k => ds ++ List.replicate k '0' ++ (if layout.pointZero then ['.', '0'] else [])
  | .negSucc k =>
    let places := k + 1
    if places < ds.length then ds.take (ds.length - places) ++ '.' :: ds.drop (ds.length - places)
    else '0' :: '.' :: List.replicate (places - ds.length) '0' ++ ds

/-- Digits with a power of ten. -/
def Layout.scientific (layout : Layout) (ds : List Char) (leading : Int) : List Char :=
  let mantissa := match ds with
    | d :: d' :: ds => d :: '.' :: d' :: ds
    | ds => ds
  let power := match leading with
    | .ofNat k => (if layout.plus then ['+'] else []) ++ digits k
    | .negSucc k => '-' :: digits (k + 1)
  mantissa ++ 'e' :: power

/-- A decimal without trailing zeros, by the layout. -/
def Layout.set (layout : Layout) (s : Scaled) : List Char :=
  let ds := digits s.coefficient
  let leading : Int := s.exponent + ds.length - 1
  if layout.plain leading then layout.point ds s.exponent else layout.scientific ds leading

/-- The text of a double. -/
def Layout.text (layout : Layout) : Binary64 → List Char
  | .nan => "NaN".toList
  | .infinite n => if n then "-inf".toList else "inf".toList
  | .finite n m e _ =>
    let body := layout.set (Binary64.shortest layout.tie m e)
    if n then '-' :: body else body

/-- Numbers for people: full digits, no power of ten, no `.0`. -/
def Layout.full : Layout := ⟨.up, fun _ => true, false, false⟩

/-- Numbers in JSON: a plain point from `10 ^ -5` up to below `10 ^ 16`. -/
def Layout.json : Layout := ⟨.even, fun e => -5 ≤ e ∧ e ≤ 15, true, true⟩

/-- Numbers in a listing of a syntax tree: a plain point from `10 ^ -4` up to below `10 ^ 16`. -/
def Layout.listing : Layout := ⟨.up, fun e => -4 ≤ e ∧ e ≤ 15, true, false⟩

end Decimal

end Formulary
