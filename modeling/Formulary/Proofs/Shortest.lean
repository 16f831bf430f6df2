import Formulary.Proofs.Magnitude
import Formulary.Proofs.Rounding

/-!
# Numbers are read back from their texts

The digits that are written for a double read as that double, whether some few digits do or the
exact decimal has to stand for it. Trailing zeros and the place of the point make no difference,
since rounding depends on the quotient alone.

* `ofDecimal_shortest`: the digits of a double read as the double.
* `readNumber?_numberText`: a finite number is read back from its text. The zeros share one text.
-/

namespace Formulary

open Binary64 Decimal

/-! ## Decimals of one value -/

namespace Decimal

theorem digits_mul_ten {c : Nat} (positive : c ≠ 0) : digits (c * 10) = digits c ++ ['0'] := by
  have zero : digits 0 = ['0'] := rfl
  unfold digits at zero ⊢
  rw [← zero, Nat.toDigits_append_toDigits (by decide) (Nat.pos_of_ne_zero positive) (by decide),
    Nat.add_zero, Nat.mul_comm]

theorem length_digits_le_iff {n k : Nat} (positive : 0 < k) :
    (digits n).length ≤ k ↔ n < 10 ^ k :=
  Nat.length_toDigits_le_iff (by decide) positive

end Decimal

namespace Binary64

variable {m : Nat} {e : Int}

theorem ofParts_neg (negative : Bool) (m : Nat) (e : Int) :
    ofParts (!negative) m e = (ofParts negative m e).neg := by
  unfold ofParts
  split <;> rfl

theorem ofRatio_neg (negative : Bool) (num den : Nat) :
    ofRatio (!negative) num den = (ofRatio negative num den).neg := by
  unfold ofRatio
  dsimp only
  split
  · rfl
  · split <;> exact ofParts_neg ..

theorem ofDecimal_neg (negative : Bool) (s : Scaled) :
    ofDecimal (!negative) s = (ofDecimal negative s).neg := by
  unfold ofDecimal
  dsimp only
  split
  · rfl
  · split
    · rfl
    · split
      · rfl
      · split <;> exact ofRatio_neg ..

/-- Within the range of doubles a decimal is rounded as a quotient. -/
theorem ofDecimal_eq_ofRatio (negative : Bool) {c : Nat} (filled : c ≠ 0)
    (small : ((digits c).length : Int) + e < 310) (large : -323 ≤ ((digits c).length : Int) + e) :
    ofDecimal negative ⟨c, e⟩ = ofRatio negative (c * 10 ^ e.toNat) (10 ^ (-e).toNat) := by
  unfold ofDecimal
  dsimp only
  rw [if_neg filled, if_neg (by omega), if_neg (by omega)]
  cases e with
  | ofNat k => simp
  | negSucc k => simp

/-- A trailing zero of the digits counts as much as one more in the exponent. -/
theorem ofDecimal_mul_ten (negative : Bool) (c : Nat) (e : Int) :
    ofDecimal negative ⟨c * 10, e⟩ = ofDecimal negative ⟨c, e + 1⟩ := by
  by_cases filled : c = 0
  · rw [filled]
    rfl
  · have filled' : c * 10 ≠ 0 := Nat.mul_ne_zero filled (by decide)
    have length : ((digits (c * 10)).length : Int) + e = (digits c).length + (e + 1) := by
      rw [digits_mul_ten filled, List.length_append, List.length_singleton]
      omega
    by_cases huge : 310 ≤ ((digits c).length : Int) + (e + 1)
    · simp [ofDecimal, filled, length, huge]
    · by_cases tiny : ((digits c).length : Int) + (e + 1) < -323
      · simp [ofDecimal, filled, length, huge, tiny]
      · rw [ofDecimal_eq_ofRatio negative filled' (by omega) (by omega),
          ofDecimal_eq_ofRatio negative filled (by omega) (by omega)]
        by_cases fraction : e < 0
        · have whole : e.toNat = 0 ∧ (e + 1).toNat = 0 ∧ (-e).toNat = (-(e + 1)).toNat + 1 := by
            omega
          rw [whole.1, whole.2.1, whole.2.2, Nat.pow_zero, Nat.mul_one, Nat.mul_one, Nat.pow_succ]
          exact ofRatio_scale negative (by decide) (Nat.pow_pos (by decide)).ne'
        · have whole : (e + 1).toNat = e.toNat + 1 ∧ (-e).toNat = 0 ∧ (-(e + 1)).toNat = 0 := by
            omega
          rw [whole.1, whole.2.1, whole.2.2, Nat.pow_succ, Nat.mul_assoc, Nat.mul_comm 10]

theorem ofDecimal_mul_pow (negative : Bool) (c k : Nat) (e : Int) :
    ofDecimal negative ⟨c * 10 ^ k, e⟩ = ofDecimal negative ⟨c, e + k⟩ := by
  induction k generalizing e with
  | zero => rw [Nat.pow_zero, Nat.mul_one, Int.natCast_zero, Int.add_zero]
  | succ k ih =>
    rw [Nat.pow_succ, ← Nat.mul_assoc, ofDecimal_mul_ten, ih]
    congr 2
    omega

theorem ofDecimal_trimmed (negative : Bool) (s : Scaled) :
    ofDecimal negative s.trimmed = ofDecimal negative s := by
  fun_induction Scaled.trimmed s with
  | case1 s none => simp [ofDecimal, none]
  | case2 s filled zero ih =>
    rw [ih, ← ofDecimal_mul_ten, Nat.div_mul_cancel (Nat.dvd_of_mod_eq_zero zero)]
  | case3 => rfl

/-! ## The digits of a double -/

theorem candidate?_reads {tie : Tie} {reads : Scaled → Bool} {num den count : Nat} {leading : Int}
    {s : Scaled} (found : candidate? tie reads num den leading count = some s) :
    reads s = true := by
  unfold candidate? at found
  dsimp only at found
  split at found
  · rename_i below above
    cases found
    -- the nearer one is one of the two
    unfold nearer
    dsimp only
    split
    · exact below
    · split
      · exact above
      · cases tie with
        | up => exact above
        | even =>
          rcases Nat.mod_two_eq_zero_or_one
            ((Decimal.inUnitsOf (leading - count + 1) num den).1 /
              (Decimal.inUnitsOf (leading - count + 1) num den).2) with even | odd
          · rw [even]
            exact below
          · rw [odd]
            exact above
  · rename_i below _
    cases found
    exact below
  · rename_i _ above
    cases found
    exact above
  · cases found

/-- The exact decimal of a double reads as the double. -/
theorem ofDecimal_expansion (canonical : Canonical m e) (filled : m ≠ 0) :
    ofDecimal false (expansion m e) = .finite false m e canonical := by
  have small := canonical.1
  cases e with
  | ofNat k =>
    have exponent : k ≤ 971 := Int.ofNat_le.1 canonical.2.2.1
    have bound : m * 2 ^ k < 10 ^ 309 := by
      calc m * 2 ^ k < 2 ^ 53 * 2 ^ k := Nat.mul_lt_mul_of_pos_right small (Nat.two_pow_pos k)
        _ ≤ 2 ^ 53 * 2 ^ 971 := Nat.mul_le_mul_left _ (Nat.pow_le_pow_right (by decide) exponent)
        _ < 10 ^ 309 := by decide +kernel
    have length := (length_digits_le_iff (by decide)).2 bound
    show ofDecimal false ⟨m * 2 ^ k, 0⟩ = _
    rw [ofDecimal_eq_ofRatio false (Nat.mul_ne_zero filled (Nat.two_pow_pos k).ne') (by omega)
      (by omega)]
    exact ofRatio_eq_finite false canonical (by decide) (by simp)
  | negSucc k =>
    have exponent : k + 1 ≤ 1074 := by
      have := canonical.2.1
      omega
    have positive : m * 5 ^ (k + 1) ≠ 0 :=
      Nat.mul_ne_zero filled (Nat.pow_pos (by decide)).ne'
    have above : m * 5 ^ (k + 1) < 10 ^ (k + 1 + 309) := by
      calc m * 5 ^ (k + 1) < 2 ^ 53 * 5 ^ (k + 1) :=
            Nat.mul_lt_mul_of_pos_right small (Nat.pow_pos (by decide))
        _ ≤ 10 ^ 309 * 10 ^ (k + 1) :=
            Nat.mul_le_mul (by decide +kernel) (Nat.pow_le_pow_left (by decide) _)
        _ = 10 ^ (k + 1 + 309) := by rw [Nat.pow_add 10 (k + 1), Nat.mul_comm]
    have short := (length_digits_le_iff (by omega)).2 above
    have long : k + 1 < (digits (m * 5 ^ (k + 1))).length + 324 := by
      by_contra beyond
      have first := List.length_pos_iff.2 (isDigits_digits (m * 5 ^ (k + 1))).1
      have places : (digits (m * 5 ^ (k + 1))).length ≤ k + 1 - 324 := by omega
      have below := (length_digits_le_iff (by omega)).1 places
      refine absurd below (Nat.not_lt.2 ?_)
      have split : k + 1 = k + 1 - 324 + 324 := by omega
      calc 10 ^ (k + 1 - 324) = 5 ^ (k + 1 - 324) * 2 ^ (k + 1 - 324) := by
            rw [← Nat.mul_pow]
        _ ≤ 5 ^ (k + 1 - 324) * 2 ^ 750 :=
            Nat.mul_le_mul_left _ (Nat.pow_le_pow_right (by decide) (by omega))
        _ ≤ 5 ^ (k + 1 - 324) * 5 ^ 324 := Nat.mul_le_mul_left _ (by decide +kernel)
        _ = 5 ^ (k + 1) := by rw [← Nat.pow_add, ← split]
        _ ≤ m * 5 ^ (k + 1) := Nat.le_mul_of_pos_left _ (Nat.pos_of_ne_zero filled)
    show ofDecimal false ⟨m * 5 ^ (k + 1), .negSucc k⟩ = _
    rw [ofDecimal_eq_ofRatio false positive (by omega) (by omega)]
    have ten : 10 ^ (k + 1) = 2 ^ (k + 1) * 5 ^ (k + 1) := by rw [← Nat.mul_pow]
    have whole : (Int.negSucc k).toNat = 0 ∧ (-Int.negSucc k).toNat = k + 1 := by omega
    rw [whole.1, whole.2, ten, Nat.pow_zero, Nat.mul_one,
      ofRatio_scale false (Nat.pow_pos (by decide)) (Nat.two_pow_pos _).ne']
    exact ofRatio_eq_finite false canonical (Nat.two_pow_pos _).ne' (by rw [whole.1, whole.2]; simp)

/-- **The digits that are written for a double read as the double.** -/
theorem ofDecimal_shortest (tie : Tie) (negative : Bool) (canonical : Canonical m e) :
    ofDecimal negative (shortest tie m e) = .finite negative m e canonical := by
  have positive : ofDecimal false (shortest tie m e) = .finite false m e canonical := by
    have value : ofParts false m e = .finite false m e canonical := dif_pos canonical
    unfold shortest
    split
    · rename_i none
      have lowest : e = -1074 := canonical.2.2.2.resolve_left (by rw [none]; decide)
      subst none lowest
      rfl
    · rename_i filled
      dsimp only
      rw [ofDecimal_trimmed]
      cases found : List.findSome? _ (List.range' 1 17) with
      | none => exact ofDecimal_expansion canonical filled
      | some s =>
        obtain ⟨count, -, candidate⟩ := List.exists_of_findSome?_eq_some found
        have reads := of_decide_eq_true (candidate?_reads candidate)
        rw [value] at reads
        exact reads
  cases negative with
  | false => exact positive
  | true =>
    rw [show true = !false from rfl, ofDecimal_neg, positive]
    rfl

end Binary64

/-! ## Reading the text -/

theorem ofDigits_zeros (n k : Nat) : ofDigits n (List.replicate k '0') = n * 10 ^ k := by
  induction k generalizing n with
  | zero => exact (Nat.mul_one n).symm
  | succ k ih =>
    have step : ofDigits n (List.replicate (k + 1) '0') =
        ofDigits (n * 10) (List.replicate k '0') := rfl
    rw [step, ih, Nat.pow_succ', Nat.mul_assoc]

/-- The digits with the point set in them are those of the decimal. -/
theorem readMantissa_setPoint (layout : Layout) (c : Nat) (e : Int) :
    ∃ coefficient places,
      readMantissa (layout.point (digits c) e) = some (coefficient, places, []) ∧
      ∀ negative,
        ofDecimal negative ⟨coefficient, -(places : Int)⟩ = ofDecimal negative ⟨c, e⟩ := by
  have run := isDigits_digits c
  cases e with
  | ofNat k =>
    have whole := run.append (isDigit_replicate_zero k)
    cases zero : layout.pointZero with
    | false =>
      have point : layout.point (digits c) (.ofNat k) = digits c ++ List.replicate k '0' := by
        simp [Layout.point, zero]
      refine ⟨_, _, by rw [point]; exact Script.readMantissa_digits whole, fun negative => ?_⟩
      rw [ofDigits_append, ofDigits_digits, ofDigits_zeros, ofDecimal_mul_pow]
      simp
    | true =>
      have point : layout.point (digits c) (.ofNat k) =
          (digits c ++ List.replicate k '0') ++ '.' :: ['0'] := by
        simp [Layout.point, zero]
      refine ⟨_, _, by rw [point]; exact Script.readMantissa_point whole (by simp),
        fun negative => ?_⟩
      have value : ofDigits 0 (digits c ++ List.replicate k '0' ++ ['0']) = c * 10 ^ (k + 1) := by
        rw [List.append_assoc, ofDigits_append, ofDigits_digits]
        show ofDigits c (List.replicate k '0' ++ List.replicate 1 '0') = _
        rw [List.replicate_append_replicate, ofDigits_zeros]
      rw [value, ofDecimal_mul_pow]
      simp
  | negSucc k =>
    unfold Layout.point
    dsimp only
    split
    · rename_i within
      have whole : IsDigits ((digits c).take ((digits c).length - (k + 1))) := by
        refine ⟨fun empty => ?_, fun d among => run.2 d (List.mem_of_mem_take among)⟩
        have length := congrArg List.length empty
        rw [List.length_take, List.length_nil] at length
        omega
      have places : ((digits c).length - ((digits c).length - (k + 1)) : Nat) = k + 1 := by omega
      refine ⟨_, _, Script.readMantissa_point whole fun d among =>
        run.2 d (List.mem_of_mem_drop among), fun negative => ?_⟩
      rw [List.take_append_drop, ofDigits_digits, List.length_drop, places, Int.negSucc_eq]
      rfl
    · rename_i beyond
      have zero : IsDigits ['0'] := ⟨List.cons_ne_nil _ _, by simp [Char.isDigit]⟩
      have places : ∀ d ∈ List.replicate (k + 1 - (digits c).length) '0' ++ digits c,
          d.isDigit = true := by
        intro d among
        rcases List.mem_append.1 among with among | among
        · exact isDigit_replicate_zero _ d among
        · exact run.2 d among
      have leading : '0' :: '.' :: List.replicate (k + 1 - (digits c).length) '0' ++ digits c =
          ['0'] ++ '.' :: (List.replicate (k + 1 - (digits c).length) '0' ++ digits c) := rfl
      rw [leading]
      refine ⟨_, _, Script.readMantissa_point zero places, fun negative => ?_⟩
      have none : ofDigits (ofDigits 0 ['0'])
          (List.replicate (k + 1 - (digits c).length) '0') = 0 := by
        rw [ofDigits_zeros]
        exact Nat.zero_mul _
      have length : k + 1 - (digits c).length + (digits c).length = k + 1 := by omega
      rw [ofDigits_append, ofDigits_append, none, ofDigits_digits, List.length_append,
        List.length_replicate, length, Int.negSucc_eq]
      rfl

/-- The power of ten behind the digits. -/
def powerText (layout : Layout) : Int → List Char
  | .ofNat k => 'e' :: ((if layout.plus then ['+'] else []) ++ digits k)
  | .negSucc k => 'e' :: '-' :: digits (k + 1)

theorem readExponent_powerText (layout : Layout) (leading : Int) :
    IsPower (powerText layout leading) ∧
      readExponent (powerText layout leading) = some leading := by
  have all (n : Nat) : (digits n).all Char.isDigit = true :=
    List.all_eq_true.2 (isDigits_digits n).2
  have filled (n : Nat) : (digits n).isEmpty = false :=
    List.isEmpty_eq_false_iff.2 (isDigits_digits n).1
  cases leading with
  | negSucc k =>
    refine ⟨.minus (isDigits_digits (k + 1)), ?_⟩
    simp [powerText, readExponent, all, filled, ofDigits_digits]
    omega
  | ofNat k =>
    unfold powerText
    cases layout.plus with
    | true =>
      refine ⟨.plus (isDigits_digits k), ?_⟩
      simp [readExponent, all, filled, ofDigits_digits]
    | false =>
      refine ⟨.plain (isDigits_digits k), ?_⟩
      have unsigned {c : Char} {ds : List Char} (other : c.isDigit = false)
          (same : digits k = c :: ds) : False :=
        Script.ne_of_isDigit ((isDigits_digits k).2 c (same ▸ List.mem_cons_self)) other rfl
      show readExponent ('e' :: digits k) = _
      simp only [readExponent, decide_true, Bool.true_or, if_true]
      split
      · rename_i same
        exact (unsigned rfl same).elim
      · rename_i same
        exact (unsigned rfl same).elim
      · simp [all, filled, ofDigits_digits]

/-- Digits with a power of ten are those of the decimal. -/
theorem readMantissa_setPower (layout : Layout) (c : Nat) (leading : Int) :
    readMantissa (layout.scientific (digits c) leading) =
      some (c, (digits c).length - 1, powerText layout leading) := by
  have stops := (readExponent_powerText layout leading).1.stops
  have value := ofDigits_digits c
  have run := isDigits_digits c
  generalize digits c = ds at value run
  rcases ds with _ | ⟨d, _ | ⟨d', ds⟩⟩
  · exact absurd rfl run.1
  · have shape : layout.scientific [d] leading = [d] ++ powerText layout leading := by
      cases leading <;> rfl
    rw [shape, Script.readMantissa_digits_append run stops, value]
    rfl
  · have shape : layout.scientific (d :: d' :: ds) leading =
        [d] ++ '.' :: ((d' :: ds) ++ powerText layout leading) := by
      cases leading <;> rfl
    have first : IsDigits [d] :=
      ⟨List.cons_ne_nil _ _, fun c among => run.2 c (List.mem_of_mem_take (i := 1) among)⟩
    rw [shape, Script.readMantissa_point_append first
      (fun c among => run.2 c (List.mem_cons_of_mem _ among)) fun c head => (stops c head).1]
    show some (ofDigits 0 (d :: d' :: ds), _, _) = _
    rw [value]
    rfl

/-- **What is written for a decimal is read as the decimal**, in every layout. -/
theorem reads_set (layout : Layout) (s : Scaled) :
    ∃ coefficient places rest exponent,
      readMantissa (layout.set s) = some (coefficient, places, rest) ∧
      readExponent rest = some exponent ∧
      ∀ negative, ofDecimal negative ⟨coefficient, exponent - (places : Nat)⟩ =
        ofDecimal negative s := by
  obtain ⟨c, e⟩ := s
  unfold Layout.set
  dsimp only
  split
  · obtain ⟨coefficient, places, mantissa, value⟩ := readMantissa_setPoint layout c e
    refine ⟨coefficient, places, [], 0, mantissa, rfl, fun negative => ?_⟩
    rw [Int.zero_sub, value]
  · refine ⟨_, _, _, _, readMantissa_setPower layout c _, (readExponent_powerText layout _).2,
      fun negative => ?_⟩
    have filled := List.length_pos_iff.2 (isDigits_digits c).1
    congr 2
    omega

/-- The text of a decimal is read as the decimal. -/
theorem readUnsigned_set (layout : Layout) (negative : Bool) (s : Scaled) :
    readUnsigned negative (layout.set s) = some (ofDecimal negative s) := by
  obtain ⟨d, r, starts, digit⟩ := (isNumeral_set layout s).head
  obtain ⟨coefficient, places, rest, exponent, mantissa, power, value⟩ := reads_set layout s
  rw [starts, Script.readUnsigned_of_isDigit negative digit, ← starts, mantissa]
  dsimp only [Option.bind_eq_bind, Option.bind_some]
  rw [power]
  exact congrArg some (value negative)

theorem ofText?_text (layout : Layout) {x : Binary64} (finite : x.isFinite = true) :
    ofText? (layout.text x) = some x := by
  cases x with
  | nan | infinite => cases finite
  | finite negative m e canonical =>
    obtain ⟨d, r, starts, digit⟩ := (isNumeral_set layout (shortest layout.tie m e)).head
    have reads (negative : Bool) :
        readUnsigned negative (layout.set (shortest layout.tie m e)) =
          some (.finite negative m e canonical) := by
      rw [readUnsigned_set, ofDecimal_shortest layout.tie negative canonical]
    cases negative with
    | true => exact reads true
    | false =>
      show ofText? (layout.set (shortest layout.tie m e)) = _
      rw [starts, Script.ofText?_unsigned digit, ← starts, reads]

namespace Binary64

theorem isFinite_neg (x : Binary64) : x.neg.isFinite = x.isFinite := by
  cases x <;> rfl

theorem toRat_neg (x : Binary64) : x.neg.toRat = -x.toRat := by
  cases x with
  | nan | infinite => exact neg_zero.symm
  | finite negative m e canonical =>
    show ((signed (!negative) m : Int) : ℚ) * 2 ^ e = -((signed negative m : Int) * 2 ^ e)
    cases negative <;> simp [signed]

/-- A double without a fraction is a whole number with a sign. -/
theorem exists_of_isIntegral {x : Binary64} (integral : x.isIntegral = true) :
    ∃ negative n, x.toRat = signed negative n ∧ x.abs.toRat = n ∧
      ∀ lo hi, x.toIntWithin lo hi = Max.max lo (Min.min hi (signed negative n)) := by
  cases x with
  | nan | infinite => cases integral
  | finite negative m e canonical =>
    cases e with
    | ofNat k =>
      have value : signed negative (m * 2 ^ k) = signed negative m * 2 ^ k := by
        rw [signed_mul, Nat.cast_pow, Nat.cast_ofNat]
      refine ⟨negative, m * 2 ^ k, ?_, ?_, fun lo hi => ?_⟩
      · show ((signed negative m : Int) : ℚ) * 2 ^ (k : Int) = _
        rw [value, zpow_natCast]
        push_cast
        rfl
      · show ((signed false m : Int) : ℚ) * 2 ^ (k : Int) = _
        rw [zpow_natCast]
        push_cast
        rfl
      · rw [value]
        rfl
    | negSucc k =>
      have divides := Nat.dvd_of_mod_eq_zero (of_decide_eq_true integral)
      obtain ⟨n, scaled⟩ := divides
      rw [Nat.mul_comm] at scaled
      have whole : Whole (.finite negative m (.negSucc k) canonical) negative n :=
        ⟨m, k + 1, canonical, scaled, rfl⟩
      have size : Whole (.finite false m (.negSucc k) canonical) false n :=
        ⟨m, k + 1, canonical, scaled, rfl⟩
      exact ⟨negative, n, whole.toRat, size.toRat, whole.toIntWithin⟩

end Binary64

theorem trim_of_not_isBlank {s : List Char} (filled : ∀ c ∈ s, Text.isBlank c = false) :
    Text.trim s = s := by
  have start : Text.trimStart s = s := by
    refine List.dropWhile_eq_self_iff.2 fun nonempty => ?_
    rw [filled _ (List.getElem_mem _)]
    exact Bool.false_ne_true
  have stop : s.reverse.dropWhile Text.isBlank = s.reverse := by
    refine List.dropWhile_eq_self_iff.2 fun nonempty => ?_
    rw [filled _ (List.mem_reverse.1 (List.getElem_mem _))]
    exact Bool.false_ne_true
  rw [Text.trim, start, Text.trimEnd, stop, List.reverse_reverse]

theorem not_isBlank_of_isNumeral {u : List Char} (isNumeral : IsNumeral u) :
    ∀ c ∈ u, Text.isBlank c = false := by
  have digit {c : Char} (digit : c.isDigit = true) : Text.isBlank c = false := by
    simp only [Char.isDigit, Bool.and_eq_true, decide_eq_true_eq, ge_iff_le,
      UInt32.le_iff_toNat_le] at digit
    have low : 48 ≤ c.toNat := digit.1
    have high : c.toNat ≤ 57 := digit.2
    simp [Text.isBlank, Text.Runs.has, Text.blankRuns]
    omega
  intro c among
  rcases isNumeral.mem_cases among with isDigit | mark
  · exact digit isDigit
  · have plain : ∀ c ∈ ['.', 'e', '+', '-'], Text.isBlank c = false := by decide
    exact plain c mark

/-- The digits of an integer read as the integer. -/
theorem ofText?_intText {n : Int} (small : n.natAbs < 2 ^ 53) :
    ∃ y, ofText? (Json.intText n) = some y ∧ y.isFinite = true ∧ y.toRat = n := by
  cases n with
  | ofNat k =>
    obtain ⟨y, reads, whole⟩ := ofText?_digits small
    exact ⟨y, reads, whole.isFinite, whole.toRat⟩
  | negSucc k =>
    obtain ⟨y, reads, whole⟩ := ofText?_digits (n := k + 1) small
    have plain (negative : Bool) :
        readUnsigned negative (digits (k + 1)) = some (ofDecimal negative ⟨k + 1, 0⟩) := by
      have set : Layout.full.set ⟨k + 1, 0⟩ = digits (k + 1) := by
        show digits (k + 1) ++ [] ++ [] = _
        rw [List.append_nil, List.append_nil]
      rw [← set]
      exact readUnsigned_set Layout.full negative _
    obtain ⟨d, r, starts, digit⟩ := (isNumeral_digits (isDigits_digits (k + 1))).head
    rw [starts, Script.ofText?_unsigned digit, ← starts, plain, Option.some.injEq] at reads
    refine ⟨y.neg, ?_, (isFinite_neg y).trans whole.isFinite, ?_⟩
    · show readUnsigned true (digits (k + 1)) = _
      rw [plain, ← reads]
      exact congrArg some (ofDecimal_neg false _)
    · rw [toRat_neg, whole.toRat]
      show -(((k + 1 : Nat) : Int) : ℚ) = ((Int.negSucc k : Int) : ℚ)
      rw [Int.negSucc_eq]
      push_cast
      rfl

theorem isFinite_of_readNumber? {s : List Char} {n : Binary64} (reads : readNumber? s = some n) :
    n.isFinite = true := by
  rw [readNumber?, Option.filter_eq_some_iff] at reads
  exact reads.2

theorem readNumber?_eq {s : List Char} {y : Binary64} (filled : ∀ c ∈ s, Text.isBlank c = false)
    (reads : ofText? s = some y) (finite : y.isFinite = true) : readNumber? s = some y := by
  rw [readNumber?, trim_of_not_isBlank filled, reads, Option.filter_some, if_pos finite]

theorem not_isBlank_sign {u : List Char} (isNumeral : IsNumeral u) :
    ∀ c ∈ '-' :: u, Text.isBlank c = false :=
  List.forall_mem_cons.2 ⟨rfl, not_isBlank_of_isNumeral isNumeral⟩

/-- **A finite number is read back from its text.** -/
theorem readNumber?_numberText {x : Binary64} (finite : x.isFinite = true) :
    ∃ y, readNumber? (numberText x).toList = some y ∧ y.isFinite = true ∧ y.toRat = x.toRat := by
  unfold numberText wholeNumber?
  split
  · rename_i n written
    split at written
    · rename_i whole
      cases written
      rw [Bool.and_eq_true] at whole
      obtain ⟨negative, n, value, size, within⟩ := exists_of_isIntegral whole.1
      have limit : Whole wholeLimit false 9000000000000000 := whole_ofRatio false (by decide)
      have finite' : x.abs.isFinite = true := by
        cases x with
        | nan | infinite => cases finite
        | finite => rfl
      have below := (lt_iff finite' limit.isFinite).1 whole.2
      have bound : signed false 9000000000000000 = 9000000000000000 := rfl
      rw [size, limit.toRat, bound] at below
      have small : n < 9000000000000000 := by exact_mod_cast below
      have held : x.toInt64 = signed negative n := by
        rw [Binary64.toInt64, within]
        unfold signed
        split <;> omega
      have short : (signed negative n).natAbs < 2 ^ 53 := by
        unfold signed
        split <;> omega
      obtain ⟨y, reads, finite'', same⟩ := ofText?_intText short
      rw [held]
      refine ⟨y, ?_, finite'', same.trans value.symm⟩
      rw [show (Json.int (signed negative n)).text = String.ofList (Json.intText _) from rfl,
        String.toList_ofList]
      refine readNumber?_eq ?_ reads finite''
      cases signed negative n with
      | ofNat k => exact not_isBlank_of_isNumeral (isNumeral_digits (isDigits_digits k))
      | negSucc k => exact not_isBlank_sign (isNumeral_digits (isDigits_digits (k + 1)))
    · cases written
  · rw [String.toList_ofList]
    refine ⟨x, readNumber?_eq ?_ (ofText?_text Layout.full finite) finite, finite, rfl⟩
    cases x with
    | nan | infinite => cases finite
    | finite negative m e canonical =>
      have numeral := isNumeral_set Layout.full (shortest .up m e)
      cases negative with
      | true => exact not_isBlank_sign numeral
      | false => exact not_isBlank_of_isNumeral numeral

end Formulary
