import Formulary.Form.Output
import Formulary.Yaml.Scalar

/-!
# Reading escaped texts in quotes

Escaping takes care of backslashes, quotes and line feeds. Every other line end stays in the quoted
text, and is folded with the blanks around it when the text is read. `reread?` is what comes out.

* `readQuoted_escaped`: an escaped text in quotes is read as `reread?` says.
-/

namespace Formulary.Yaml

open Form (escapeQuoted)

/-- A separator of lines or of paragraphs, the only line ends that stand for themselves. -/
def isSeparator (c : Char) : Bool := c = '\u2028' || c = '\u2029'

/-- A blank or a line end that escaping leaves as it is. -/
def isFolded (c : Char) : Bool := (isGap c || isBreak c) && c != '\n'

/-- The gap with a blank or a line end more. -/
def Gap.take (g : Gap) (c : Char) : Gap :=
  if isBreak c then g.addBreak (if isSeparator c then [c] else ['\n']) else g.addBlank c

/-- The text starts like a line between documents, with three dashes or dots. -/
def startsMark : List Char → Bool
  | x :: y :: z :: s => (x = '-' || x = '.') && y = x && z = x && s.head?.any isFolded
  | _ => false

/-- What the rest of an escaped text in quotes is read as; `g` is the gap under way, and `first`
holds at the start of a line. -/
def reread? (g : Gap) (first : Bool) : List Char → Option (List Char)
  | [] => some g.text
  | x :: s =>
    if isFolded x then reread? (g.take x) (isBreak x) s
    else if first && startsMark (x :: s) then none
    else (reread? {} false s).map (g.text ++ x :: ·)

/-! ## Escapes -/

/-- The rest of a quoted text: characters in their escaped form, the closing quote, and what is
behind it. -/
def quotedRest (s r : List Char) : List Char := s.flatMap escapeQuoted ++ '"' :: r

/-- A character is escaped by a backslash and a letter that stands for it, or it stays. -/
theorem escapeQuoted_cases (x : Char) :
    (∃ y, escapeQuoted x = ['\\', y] ∧ isBreak y = false ∧
      (∀ r, readEscape? (y :: r) = some (x, 1)) ∧ isFolded x = false ∧ x ≠ '-' ∧ x ≠ '.') ∨
    (escapeQuoted x = [x] ∧ x ≠ '\\' ∧ x ≠ '"' ∧ x ≠ '\n') := by
  unfold escapeQuoted
  split
  · exact Or.inl ⟨'\\', rfl, rfl, fun _ => rfl, rfl, by decide, by decide⟩
  · exact Or.inl ⟨'"', rfl, rfl, fun _ => rfl, rfl, by decide, by decide⟩
  · exact Or.inl ⟨'n', rfl, rfl, fun _ => rfl, rfl, by decide, by decide⟩
  · rename_i slash quote feed
    exact Or.inr ⟨rfl, slash, quote, feed⟩

theorem quotedRest_cons (x : Char) (s r : List Char) :
    quotedRest (x :: s) r = escapeQuoted x ++ quotedRest s r := by
  rw [quotedRest, List.flatMap_cons, List.append_assoc]
  rfl

theorem escapeQuoted_of_isFolded {x : Char} (folded : isFolded x = true) :
    escapeQuoted x = [x] := by
  rcases escapeQuoted_cases x with ⟨y, -, -, -, unfolded, -⟩ | ⟨kept, -⟩
  · rw [folded] at unfolded
    cases unfolded
  · exact kept

/-- No line feed is left. -/
theorem head?_quotedRest_ne (s r : List Char) : (quotedRest s r).head? ≠ some '\n' := by
  cases s with
  | nil => exact fun h => absurd (Option.some.inj h) (by decide)
  | cons x s =>
    rw [quotedRest_cons]
    rcases escapeQuoted_cases x with ⟨y, shape, -⟩ | ⟨shape, -, -, feed⟩
    · rw [shape]
      exact fun h => absurd (Option.some.inj h) (by decide)
    · rw [shape]
      exact fun h => feed (Option.some.inj h)

theorem atGap_quotedRest (s r : List Char) : atGap (quotedRest s r) = s.head?.any isFolded := by
  cases s with
  | nil => rfl
  | cons x s =>
    rw [quotedRest_cons]
    rcases escapeQuoted_cases x with ⟨y, shape, -, -, unfolded, -⟩ | ⟨shape, -, -, feed⟩
    · rw [shape]
      simp [unfolded, atGap, isGap, isBreak]
    · rw [shape]
      simp [atGap, isFolded, feed]

/-- Dashes and dots stay where they are. -/
theorem quotedRest_cons_eq {x y : Char} {s r t : List Char} (bar : y = '-' ∨ y = '.')
    (shape : quotedRest (x :: s) r = y :: t) : x = y ∧ t = quotedRest s r := by
  rw [quotedRest_cons] at shape
  rcases escapeQuoted_cases x with ⟨z, escaped, -⟩ | ⟨kept, -⟩
  · rw [escaped] at shape
    rcases bar with rfl | rfl
    · cases shape
    · cases shape
  · rw [kept] at shape
    cases shape
    exact ⟨rfl, rfl⟩

/-! ## Lines between documents -/

theorem Cursor.atMark_iff {c : Cursor} {m : Char} :
    c.atMark m = true ↔ c.column = 0 ∧ ∃ t, c.rest = m :: m :: m :: t ∧ atGap t = true := by
  unfold Cursor.atMark
  split
  · rename_i x y z t shape
    simp [shape, and_assoc]
  · rename_i other
    simp only [Bool.and_false, Bool.false_eq_true, false_iff]
    rintro ⟨-, t, shape, -⟩
    exact other m m m t shape

theorem startsMark_iff {s : List Char} :
    startsMark s = true ↔ ∃ m, (m = '-' ∨ m = '.') ∧ ∃ t, s = m :: m :: m :: t ∧
      t.head?.any isFolded = true := by
  unfold startsMark
  split
  · rename_i x y z t
    constructor
    · intro starts
      simp only [Bool.and_eq_true, Bool.or_eq_true, decide_eq_true_eq] at starts
      obtain ⟨⟨⟨bar, rfl⟩, rfl⟩, gap⟩ := starts
      exact ⟨_, bar, t, rfl, gap⟩
    · rintro ⟨m, bar, t', ⟨⟩, gap⟩
      simp [bar, gap]
  · rename_i other
    simp only [Bool.false_eq_true, false_iff]
    rintro ⟨m, -, t, shape, -⟩
    exact other m m m t shape

theorem startsMark_cons_of_ne {x : Char} (s : List Char) (dash : x ≠ '-') (dot : x ≠ '.') :
    startsMark (x :: s) = false := by
  rw [Bool.eq_false_iff]
  intro starts
  obtain ⟨m, bar, t, shape, -⟩ := startsMark_iff.1 starts
  cases shape
  rcases bar with rfl | rfl
  · exact dash rfl
  · exact dot rfl

theorem Cursor.atMark_quotedRest {c : Cursor} {m : Char} {s r : List Char}
    (bar : m = '-' ∨ m = '.') (rest : c.rest = quotedRest s r) :
    c.atMark m = true ↔
      c.column = 0 ∧ ∃ t, s = m :: m :: m :: t ∧ t.head?.any isFolded = true := by
  have step (s t : List Char) (shape : quotedRest s r = m :: t) :
      ∃ s', s = m :: s' ∧ t = quotedRest s' r := by
    cases s with
    | nil =>
      rcases bar with rfl | rfl
      · cases shape
      · cases shape
    | cons x s =>
      obtain ⟨rfl, rest⟩ := quotedRest_cons_eq bar shape
      exact ⟨s, rfl, rest⟩
  have kept : escapeQuoted m = [m] := by
    rcases bar with rfl | rfl
    · rfl
    · rfl
  rw [Cursor.atMark_iff, rest]
  refine and_congr_right fun _ => ⟨?_, ?_⟩
  · rintro ⟨t, shape, gap⟩
    obtain ⟨s₁, rfl, first⟩ := step s _ shape
    obtain ⟨s₂, rfl, second⟩ := step s₁ _ first.symm
    obtain ⟨s₃, rfl, rfl⟩ := step s₂ _ second.symm
    rw [atGap_quotedRest] at gap
    exact ⟨s₃, rfl, gap⟩
  · rintro ⟨t, rfl, gap⟩
    refine ⟨quotedRest t r, ?_, (atGap_quotedRest t r).trans gap⟩
    simp only [quotedRest_cons, kept, List.cons_append, List.nil_append]

/-- Escaping neither makes lines between documents nor hides them. -/
theorem Cursor.atDocumentMark_quotedRest {c : Cursor} {s r : List Char}
    (rest : c.rest = quotedRest s r) :
    c.atDocumentMark = (c.column = 0 && startsMark s) := by
  rw [Bool.eq_iff_iff, Cursor.atDocumentMark, Bool.or_eq_true, Bool.and_eq_true,
    decide_eq_true_eq, startsMark_iff, Cursor.atMark_quotedRest (Or.inl rfl) rest,
    Cursor.atMark_quotedRest (Or.inr rfl) rest, ← and_or_left]
  refine and_congr_right fun _ => ⟨?_, ?_⟩
  · rintro (dashes | dots)
    · exact ⟨'-', Or.inl rfl, dashes⟩
    · exact ⟨'.', Or.inr rfl, dots⟩
  · rintro ⟨m, rfl | rfl, marks⟩
    · exact Or.inl marks
    · exact Or.inr marks

/-! ## Gaps -/

theorem isBreak_of_isSeparator {x : Char} (separates : isSeparator x = true) :
    isBreak x = true := by
  have either : x = '\u2028' ∨ x = '\u2029' := by
    simpa [isSeparator] using separates
  rcases either with rfl | rfl
  · rfl
  · rfl

theorem Cursor.takeBreak?_cons {c : Cursor} {x : Char} {t : List Char} (rest : c.rest = x :: t)
    (ends : isBreak x = true) (next : t.head? ≠ some '\n') :
    c.takeBreak? = some (if isSeparator x then [x] else ['\n'], c.nextLine 1) := by
  unfold Cursor.takeBreak?
  split
  · rename_i s shape
    cases rest.symm.trans shape
    exact absurd rfl next
  · rename_i y s other shape
    cases rest.symm.trans shape
    show (if isSeparator x = true then some ([x], c.nextLine 1)
      else if isBreak x = true then some (['\n'], c.nextLine 1) else none) = _
    rw [if_pos ends]
    split
    · rfl
    · rfl
  · rename_i shape
    cases rest.symm.trans shape

theorem Cursor.takeBreak?_of_not_isBreak {c : Cursor}
    (inside : atLineEnd c.rest = true → c.rest = []) : c.takeBreak? = none := by
  unfold Cursor.takeBreak?
  split
  · rename_i s shape
    rw [shape] at inside
    cases inside rfl
  · rename_i y s other shape
    rw [shape] at inside
    have inner : isBreak y = false := by
      cases broken : isBreak y with
      | false => rfl
      | true => cases inside broken
    have within : isSeparator y = false := by
      cases separates : isSeparator y with
      | false => rfl
      | true => exact (isBreak_of_isSeparator separates).symm.trans inner
    show (if isSeparator y = true then _ else if isBreak y = true then _ else _) = _
    rw [within, inner]
    rfl
  · rfl

/-- At a line's end a gap goes on behind it. -/
theorem readGap_break {g : Gap} {c : Cursor} {x : Char} {t : List Char} (rest : c.rest = x :: t)
    (ends : isBreak x = true) (next : t.head? ≠ some '\n') :
    readGap 0 g c = readGap 0 (g.take x) (c.nextLine 1) := by
  have taken := Cursor.takeBreak?_cons rest ends next
  rw [readGap]
  split
  · rename_i text d here
    cases taken.symm.trans here
    rw [Gap.take, if_pos ends]
  · rename_i none
    cases taken.symm.trans none

/-- At a blank a gap goes on behind it. -/
theorem readGap_blank {g : Gap} {c : Cursor} {x : Char} {t : List Char} (rest : c.rest = x :: t)
    (blank : isGap x = true) (inside : isBreak x = false) :
    readGap 0 g c = readGap 0 (g.take x) (c.skip 1) := by
  have untaken : c.takeBreak? = none := by
    refine Cursor.takeBreak?_of_not_isBreak ?_
    simp [rest, atLineEnd, inside]
  rw [readGap]
  split
  · rename_i text d here
    cases untaken.symm.trans here
  · split
    · rename_i y s shape
      cases rest.symm.trans shape
      rw [if_pos blank, Gap.take, inside, if_neg Bool.false_ne_true]
      simp
    · rename_i shape
      cases rest.symm.trans shape

/-- Elsewhere a gap is over. -/
theorem readGap_over {level : Nat} {g : Gap} {c : Cursor} {x : Char} {t : List Char}
    (rest : c.rest = x :: t) (text : isGap x = false) (inside : isBreak x = false) :
    readGap level g c = some (g, c) := by
  have untaken : c.takeBreak? = none := by
    refine Cursor.takeBreak?_of_not_isBreak ?_
    simp [rest, atLineEnd, inside]
  rw [readGap]
  split
  · rename_i text d here
    cases untaken.symm.trans here
  · split
    · rename_i y s shape
      cases rest.symm.trans shape
      rw [text, if_neg Bool.false_ne_true]
    · rfl

/-! ## Quoted texts -/

section Quoted

variable {g g' : Gap} {c d : Cursor} {r : List Char}

theorem readQuoted_mark (gap : readGap 0 g c = some (g', d)) (marked : d.atDocumentMark = true) :
    readQuoted '"' g c = none := by
  rw [readQuoted]
  split
  · rfl
  · rename_i here
    cases gap.symm.trans here
    rw [if_pos marked]

theorem readQuoted_close (gap : readGap 0 g c = some (g', d)) (unmarked : d.atDocumentMark = false)
    (rest : d.rest = '"' :: r) : readQuoted '"' g c = some (g'.text, d.skip 1) := by
  rw [readQuoted]
  split
  · rename_i here
    cases gap.symm.trans here
  · rename_i here
    cases gap.symm.trans here
    rw [if_neg (by rw [unmarked]; exact Bool.false_ne_true)]
    split
    · rename_i shape
      cases rest.symm.trans shape
    · rename_i shape
      cases rest.symm.trans shape
      rfl

theorem readQuoted_escape {x y : Char} (gap : readGap 0 g c = some (g', d))
    (unmarked : d.atDocumentMark = false) (rest : d.rest = '\\' :: y :: r)
    (inside : isBreak y = false) (stands : readEscape? (y :: r) = some (x, 1)) :
    readQuoted '"' g c =
      (readQuoted '"' {} (d.skip 2)).map fun (text, e) => (g'.text ++ x :: text, e) := by
  have unbroken : (d.skip 1).takeBreak? = none := by
    refine Cursor.takeBreak?_of_not_isBreak ?_
    simp [Cursor.skip, rest, atLineEnd, inside]
  rw [readQuoted]
  split
  · rename_i here
    cases gap.symm.trans here
  · rename_i here
    cases gap.symm.trans here
    rw [if_neg (by rw [unmarked]; exact Bool.false_ne_true)]
    split
    · rename_i shape
      cases rest.symm.trans shape
    · rename_i shape
      cases rest.symm.trans shape
      rw [if_neg (by simp), if_neg (by decide), if_pos (by decide)]
      split
      · rename_i broken
        cases unbroken.symm.trans broken
      · rw [stands]

theorem readQuoted_literal {x : Char} (gap : readGap 0 g c = some (g', d))
    (unmarked : d.atDocumentMark = false) (rest : d.rest = x :: r) (slash : x ≠ '\\')
    (quote : x ≠ '"') :
    readQuoted '"' g c =
      (readQuoted '"' {} (d.skip 1)).map fun (text, e) => (g'.text ++ x :: text, e) := by
  rw [readQuoted]
  split
  · rename_i here
    cases gap.symm.trans here
  · rename_i here
    cases gap.symm.trans here
    rw [if_neg (by rw [unmarked]; exact Bool.false_ne_true)]
    split
    · rename_i shape
      cases rest.symm.trans shape
    · rename_i shape
      cases rest.symm.trans shape
      simp [slash, quote]

end Quoted

/-- **What an escaped text in quotes is read as.** Reading ends behind the closing quote, wherever
it started. -/
theorem readQuoted_escaped (s r : List Char) {g₀ g : Gap} {c₀ c : Cursor}
    (ahead : readGap 0 g₀ c₀ = readGap 0 g c) (rest : c.rest = quotedRest s r) :
    ∃ d : Cursor, d.rest = r ∧
      readQuoted '"' g₀ c₀ = (reread? g (c.column = 0) s).map (·, d) := by
  induction s generalizing g₀ g c₀ c with
  | nil =>
    have gap := ahead.trans (readGap_over rest rfl rfl)
    have none : startsMark [] = false := rfl
    have unmarked : c.atDocumentMark = false := by
      rw [Cursor.atDocumentMark_quotedRest rest, none, Bool.and_false]
    exact ⟨c.skip 1, by rw [Cursor.skip, rest]; rfl, readQuoted_close gap unmarked rest⟩
  | cons x s ih =>
    rw [reread?]
    by_cases folded : isFolded x = true
    · -- The gap goes on: nothing is read yet.
      rw [if_pos folded]
      rw [quotedRest_cons, escapeQuoted_of_isFolded folded] at rest
      cases ends : isBreak x with
      | true =>
        have further := readGap_break (g := g) rest ends (head?_quotedRest_ne s r)
        refine ih (ahead.trans further) ?_
        rw [Cursor.nextLine, rest]
        rfl
      | false =>
        have blank : isGap x = true := by
          simp [isFolded, ends] at folded
          exact folded.1
        have further := readGap_blank (g := g) rest blank ends
        refine ih (ahead.trans further) ?_
        rw [Cursor.skip, rest]
        rfl
    · rw [if_neg folded]
      have marks := Cursor.atDocumentMark_quotedRest rest
      have onward (n : Nat) (behind : (c.skip (n + 1)).rest = quotedRest s r) :
          ∃ d : Cursor, d.rest = r ∧
            readQuoted '"' {} (c.skip (n + 1)) = (reread? {} false s).map (·, d) := by
        have later : (decide ((c.skip (n + 1)).column = 0)) = false := by
          simp [Cursor.skip]
        rw [← later]
        exact ih rfl behind
      rw [quotedRest_cons] at rest
      rcases escapeQuoted_cases x with
        ⟨y, shape, inside, stands, -, dash, dot⟩ | ⟨shape, slash, quote, feed⟩
      · rw [shape] at rest
        rw [startsMark_cons_of_ne s dash dot, Bool.and_false] at marks ⊢
        obtain ⟨d, behind, read⟩ := onward 1 (by rw [Cursor.skip, rest]; rfl)
        refine ⟨d, behind, ?_⟩
        rw [readQuoted_escape (ahead.trans (readGap_over rest rfl rfl)) marks rest inside
          (stands _), read, if_neg Bool.false_ne_true, Option.map_map, Option.map_map]
        rfl
      · rw [shape] at rest
        have text : isGap x = false ∧ isBreak x = false := by
          simpa [isFolded, feed] using folded
        have gap := ahead.trans (readGap_over rest text.1 text.2)
        rw [← marks]
        cases marked : c.atDocumentMark with
        | true =>
          exact ⟨⟨r, 0, 0, 0⟩, rfl, readQuoted_mark gap marked⟩
        | false =>
          obtain ⟨d, behind, read⟩ := onward 0 (by rw [Cursor.skip, rest]; rfl)
          refine ⟨d, behind, ?_⟩
          rw [readQuoted_literal gap marked rest slash quote, read, if_neg Bool.false_ne_true,
            Option.map_map, Option.map_map]
          rfl

end Formulary.Yaml
