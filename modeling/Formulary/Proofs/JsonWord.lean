import Formulary.Json.Reader
import Formulary.Proofs.Shortest

/-!
# Words of JSON

The words of JSON outside strings: the keywords and the numbers. What is written for a number is
read back as the number, an integer as an integer and a double as a double, since a double is never
written without a point or a power of ten.

* `readWord_intText`: an integer of 64 bits is read back.
* `readWord_text`: a finite double is read back.
-/

namespace Formulary

open Binary64 Decimal

/-! ## First digits -/

namespace Decimal

/-- The digits of a number do not start with a zero, except for zero itself. -/
theorem head?_digits_ne_zero {n : Nat} (positive : n ≠ 0) : (digits n).head? ≠ some '0' := by
  induction n using Nat.strongRecOn with
  | ind n ih =>
    unfold digits
    by_cases small : n < 10
    · rw [Nat.toDigits_of_lt_base small, List.head?_cons, ne_eq, Option.some_inj,
        Nat.digitChar_eq_zero]
      exact positive
    · rw [Nat.toDigits_of_base_le (by decide) (Nat.le_of_not_lt small),
        List.head?_append, List.head?_eq_some_head Nat.toDigits_ne_nil,
        Option.some_or, ← List.head?_eq_some_head]
      have quotient : n / 10 < n ∧ n / 10 ≠ 0 := by omega
      exact ih (n / 10) quotient.1 quotient.2

/-- A decimal without trailing zeros is zero, or has digits that do not start with a zero. -/
theorem Scaled.trimmed_cases (s : Scaled) : s.trimmed = ⟨0, 0⟩ ∨ s.trimmed.coefficient ≠ 0 := by
  fun_induction Scaled.trimmed s with
  | case1 s none => exact Or.inl rfl
  | case2 s filled zero ih => exact ih
  | case3 s filled last => exact Or.inr filled

theorem shortest_cases (tie : Tie) (m : Nat) (e : Int) :
    shortest tie m e = ⟨0, 0⟩ ∨ (shortest tie m e).coefficient ≠ 0 := by
  unfold shortest
  split
  · exact Or.inl rfl
  · exact Scaled.trimmed_cases _

end Decimal

namespace Json

/-! ## Integer parts -/

theorem isWholePart_cons {d : Char} {ds : List Char} (run : IsDigits (d :: ds))
    (first : d ≠ '0' ∨ ds = []) : isWholePart (d :: ds) = true := by
  have all : (d :: ds).all Char.isDigit = true := List.all_eq_true.2 run.2
  unfold isWholePart
  rw [all, Bool.true_and]
  split
  · rename_i absurd
    cases absurd
  · rfl
  · rename_i other same
    cases same
    rcases first with differs | rfl
    · exact bne_iff_ne.2 differs
    · exact bne_iff_ne.2 fun zero => other zero rfl

/-- Digits that start with those of a number are a whole part, unless that number is zero. -/
theorem isWholePart_digits_append {n : Nat} {more : List Char}
    (run : ∀ c ∈ more, c.isDigit = true) (alone : n = 0 → more = []) :
    isWholePart (digits n ++ more) = true := by
  have whole := (isDigits_digits n).append run
  by_cases zero : n = 0
  · rw [alone zero, zero]
    rfl
  · have first := head?_digits_ne_zero zero
    have filled := (isDigits_digits n).1
    generalize digits n = ds at whole first filled
    cases ds with
    | nil => exact absurd rfl filled
    | cons d ds => exact isWholePart_cons whole (Or.inl fun same => first (congrArg some same))

/-! ## Numbers -/

/-- What follows the whole part of a double: a point and a digit, or a power of ten. -/
inductive IsTail : List Char → Prop
  | point {d : Char} (r : List Char) (digit : d.isDigit = true) : IsTail ('.' :: d :: r)
  | power (r : List Char) : IsTail ('e' :: r)

/-- A text that is cut into a whole part and more. -/
def IsDouble (u : List Char) : Prop :=
  ∃ whole tail, u = whole ++ tail ∧ IsDigits whole ∧ isWholePart whole = true ∧ IsTail tail

theorem isDouble_whole (layout : Layout) (zero : layout.pointZero = true) {n : Nat} (k : Nat)
    (alone : n = 0 → k = 0) : IsDouble (layout.point (digits n) (.ofNat k)) := by
  have digit := isDigit_replicate_zero k
  refine ⟨digits n ++ List.replicate k '0', ['.', '0'], ?_, (isDigits_digits n).append digit, ?_,
    .point [] rfl⟩
  · simp [Layout.point, zero]
  · refine isWholePart_digits_append digit fun none => ?_
    rw [alone none]
    rfl

theorem isDouble_places (layout : Layout) {n : Nat} (positive : n ≠ 0) (k : Nat) :
    IsDouble (layout.point (digits n) (.negSucc k)) := by
  have run := isDigits_digits n
  have first := head?_digits_ne_zero positive
  unfold Layout.point
  dsimp only
  generalize digits n = ds at run first
  rcases ds with _ | ⟨d, ds⟩
  · exact absurd rfl run.1
  split
  · rename_i within
    rw [List.length_cons] at within ⊢
    obtain ⟨i, shape⟩ : ∃ i, ds.length + 1 - (k + 1) = i + 1 := ⟨ds.length - (k + 1), by omega⟩
    rw [shape, List.take_succ_cons, List.drop_succ_cons]
    have rest : 0 < (ds.drop i).length := by
      rw [List.length_drop]
      omega
    obtain ⟨d', r, places⟩ := List.exists_cons_of_length_pos rest
    have whole : IsDigits (d :: ds.take i) :=
      ⟨List.cons_ne_nil _ _, fun c among => run.2 c (List.mem_of_mem_take (i := i + 1) among)⟩
    refine ⟨d :: ds.take i, '.' :: ds.drop i, rfl, whole,
      isWholePart_cons whole (Or.inl fun same => first (congrArg some same)), ?_⟩
    have among : d' ∈ ds.drop i := places ▸ List.mem_cons_self
    rw [places]
    exact .point r (run.2 d' (List.mem_cons_of_mem _ (List.mem_of_mem_drop among)))
  · refine ⟨['0'], _, rfl, ⟨List.cons_ne_nil _ _, by simp [Char.isDigit]⟩, rfl, ?_⟩
    cases k + 1 - (d :: ds).length with
    | zero => exact .point ds (run.2 d List.mem_cons_self)
    | succ j => exact .point _ rfl

theorem isDouble_scientific (layout : Layout) (n : Nat) (leading : Int) :
    IsDouble (layout.scientific (digits n) leading) := by
  have run := isDigits_digits n
  have single {d : Char} (digit : d.isDigit = true) : IsDigits [d] ∧ isWholePart [d] = true := by
    have one : IsDigits [d] :=
      ⟨List.cons_ne_nil _ _, fun c among => List.mem_singleton.1 among ▸ digit⟩
    exact ⟨one, isWholePart_cons one (Or.inr rfl)⟩
  generalize digits n = ds at run
  rcases ds with _ | ⟨d, _ | ⟨d', ds⟩⟩
  · exact absurd rfl run.1
  · obtain ⟨whole, part⟩ := single (run.2 d List.mem_cons_self)
    exact ⟨[d], 'e' :: _, rfl, whole, part, .power _⟩
  · obtain ⟨whole, part⟩ := single (run.2 d List.mem_cons_self)
    have digit := run.2 d' (List.mem_cons_of_mem _ List.mem_cons_self)
    exact ⟨[d], '.' :: d' :: _, rfl, whole, part, .point _ digit⟩

/-- A decimal without trailing zeros is written in JSON as a whole part and more. -/
theorem isDouble_set (s : Scaled) (normal : s = ⟨0, 0⟩ ∨ s.coefficient ≠ 0) :
    IsDouble (Layout.json.set s) := by
  obtain ⟨c, e⟩ := s
  unfold Layout.set
  dsimp only
  split
  · cases e with
    | ofNat k =>
      refine isDouble_whole Layout.json rfl k fun zero => ?_
      rcases normal with same | positive
      · cases same
        rfl
      · exact absurd zero positive
    | negSucc k =>
      exact isDouble_places Layout.json (normal.resolve_left fun same => by cases same) k
  · exact isDouble_scientific Layout.json c _

theorem readUnsigned_of_isDouble (negative : Bool) {u : List Char} (double : IsDouble u) :
    readUnsigned negative u = ofFractional negative u := by
  obtain ⟨whole, tail, rfl, run, part, isTail⟩ := double
  have stops : ∀ c ∈ tail.head?, c.isDigit = false := by
    intro c first
    cases isTail <;> cases first <;> rfl
  obtain ⟨taken, dropped⟩ := Script.takeWhile_stops run.2 stops
  unfold readUnsigned
  dsimp only
  rw [taken, dropped, part]
  cases isTail with
  | point r digit =>
    simp only [Bool.not_true, Bool.false_eq_true, if_false]
    rw [if_pos digit]
  | power r => rfl

theorem readUnsigned_set (negative : Bool) (s : Scaled) (normal : s = ⟨0, 0⟩ ∨ s.coefficient ≠ 0)
    (finite : (ofDecimal negative s).isFinite = true) :
    readUnsigned negative (Layout.json.set s) = some (.float (ofDecimal negative s)) := by
  obtain ⟨coefficient, places, rest, exponent, mantissa, power, value⟩ := reads_set Layout.json s
  rw [readUnsigned_of_isDouble negative (isDouble_set s normal), ofFractional, mantissa]
  dsimp only
  rw [power]
  dsimp only
  rw [value negative, if_pos finite]

/-- Digits are read as an integer of 64 bits. -/
theorem readUnsigned_digits (negative : Bool) (n : Nat) :
    readUnsigned negative (digits n) = ofWhole negative n := by
  have none : ∀ c ∈ ([] : List Char), c.isDigit = true := by simp
  have part := isWholePart_digits_append (n := n) none fun _ => rfl
  have run := isDigits_digits n
  rw [List.append_nil] at part
  unfold readUnsigned
  dsimp only
  rw [List.takeWhile_eq_self_iff.2 run.2, List.dropWhile_eq_nil_iff.2 run.2, part, ofDigits_digits]
  rfl

/-! ## Words -/

/-- A word that is no keyword is a number. -/
theorem readWord_number {c : Char} {r : List Char} (number : c.isDigit = true ∨ c = '-') :
    readWord (c :: r) = if c = '-' then readUnsigned true r else readUnsigned false (c :: r) := by
  have notWord (d : Char) (w : List Char) (letter : d.isDigit = false ∧ d ≠ '-') :
      c :: r ≠ d :: w := by
    intro same
    rcases number with digit | rfl
    · exact Script.ne_of_isDigit digit letter.1 (List.cons.inj same).1
    · exact letter.2 (List.cons.inj same).1.symm
  have notNull : c :: r ≠ "null".toList := notWord 'n' _ ⟨rfl, by decide⟩
  have notTrue : c :: r ≠ "true".toList := notWord 't' _ ⟨rfl, by decide⟩
  have notFalse : c :: r ≠ "false".toList := notWord 'f' _ ⟨rfl, by decide⟩
  unfold readWord
  rw [if_neg notNull, if_neg notTrue, if_neg notFalse]
  split
  · rename_i same
    obtain ⟨rfl, rfl⟩ := List.cons.inj same
    exact (if_pos rfl).symm
  · rename_i other
    exact (if_neg fun dash => other r (by rw [dash])).symm

/-- **An integer of 64 bits is read back.** -/
theorem readWord_intText {n : Int} (low : -2 ^ 63 ≤ n) (high : n < 2 ^ 64) :
    readWord (intText n) = some (.int n) := by
  cases n with
  | ofNat k =>
    have below : (k : Int) < 2 ^ 64 := high
    obtain ⟨d, r, starts, digit⟩ := (isNumeral_digits (isDigits_digits k)).head
    show readWord (digits k) = _
    rw [starts, readWord_number (Or.inl digit), if_neg (Script.ne_of_isDigit digit rfl), ← starts,
      readUnsigned_digits, ofWhole, if_neg Bool.false_ne_true, if_pos (by omega)]
    rfl
  | negSucc k =>
    show readWord ('-' :: digits (k + 1)) = _
    rw [readWord_number (Or.inr rfl), if_pos rfl, readUnsigned_digits, ofWhole, if_pos rfl,
      if_pos (by omega)]
    rfl

/-- **A finite double is read back.** -/
theorem readWord_text {x : Binary64} (finite : x.isFinite = true) :
    readWord (Layout.json.text x) = some (.float x) := by
  cases x with
  | nan | infinite => cases finite
  | finite negative m e canonical =>
    have normal := shortest_cases .even m e
    have value := ofDecimal_shortest .even negative canonical
    have reads := readUnsigned_set negative (shortest .even m e) normal (by rw [value]; rfl)
    rw [value] at reads
    obtain ⟨d, r, starts, digit⟩ := (isNumeral_set Layout.json (shortest .even m e)).head
    cases negative with
    | true =>
      show readWord ('-' :: Layout.json.set (shortest .even m e)) = _
      rw [readWord_number (Or.inr rfl), if_pos rfl, reads]
    | false =>
      show readWord (Layout.json.set (shortest .even m e)) = _
      rw [starts, readWord_number (Or.inl digit), if_neg (Script.ne_of_isDigit digit rfl),
        ← starts, reads]

end Json

end Formulary
