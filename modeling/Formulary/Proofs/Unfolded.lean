import Formulary.Proofs.Folding
import Mathlib.Data.List.Chain

/-!
# Texts that are read as they were written

Reading an escaped text in quotes loses blanks beside the separators that it keeps, and turns every
other line end but the escaped one into a space or a line feed. It fails where a line between
documents seems to start.

* `reread?_eq_self_iff`: all other texts come out as they went in.
-/

namespace Formulary.Yaml

/-- A blank beside a separator is lost. -/
def Joins (a b : Char) : Prop :=
  ¬ (isGap a = true ∧ isSeparator b = true) ∧ ¬ (isSeparator a = true ∧ isGap b = true)

/-- A text that is read as it was before it was escaped. -/
structure Unfolded (s : List Char) : Prop where
  /-- All but separators and line feeds are read as a space or as a line feed. -/
  kept : ∀ c ∈ s, c ≠ '\r' ∧ c ≠ '\u0085'
  joined : s.IsChain Joins
  /-- No line between documents comes up. -/
  unmarked : ∀ a t, a :: t <:+ s → isSeparator a = true → startsMark t = false

section Lost

variable {g : Gap} {first : Bool} {s u w : List Char} {x : Char}

/-- Every line end that stays is a separator. -/
theorem isSeparator_of_isBreak (ends : isBreak x = true) (feed : x ≠ '\n')
    (kept : x ≠ '\r' ∧ x ≠ '\u0085') : isSeparator x = true := by
  simpa [isBreak, isSeparator, feed, kept] using ends

theorem isGap_or_isSeparator (folded : isFolded x = true) (kept : x ≠ '\r' ∧ x ≠ '\u0085') :
    isGap x = true ∨ isSeparator x = true := by
  rw [isFolded, Bool.and_eq_true, Bool.or_eq_true] at folded
  rcases folded with ⟨blank | ends, feed⟩
  · exact Or.inl blank
  · exact Or.inr (isSeparator_of_isBreak ends (by simpa using feed) kept)

theorem not_isGap_of_isSeparator (separates : isSeparator x = true) : isGap x = false := by
  have either : x = '\u2028' ∨ x = '\u2029' := by
    simpa [isSeparator] using separates
  rcases either with rfl | rfl
  · rfl
  · rfl

theorem isBreak_of_isGap (blank : isGap x = true) : isBreak x = false := by
  have either : x = ' ' ∨ x = '\t' := by
    simpa [isGap] using blank
  rcases either with rfl | rfl
  · rfl
  · rfl

theorem not_isGap_of_not_isFolded (ordinary : ¬ isFolded x = true) :
    isGap x = false ∧ isSeparator x = false := by
  rw [isFolded, Bool.and_eq_true, Bool.or_eq_true, not_and] at ordinary
  constructor
  · rw [Bool.eq_false_iff]
    intro blank
    refine ordinary (Or.inl blank) ?_
    rw [bne_iff_ne]
    rintro rfl
    cases blank
  · rw [Bool.eq_false_iff]
    intro separates
    refine ordinary (Or.inr (isBreak_of_isSeparator separates)) ?_
    rw [bne_iff_ne]
    rintro rfl
    cases separates

/-! ## Line ends that are read as others -/

/-- A line end that is not read as itself does not come out of a gap. -/
theorem not_mem_take {c : Char} (ends : isBreak c = true) (feed : c ≠ '\n')
    (loses : isSeparator c = false)
    (absent : c ∉ g.blanks ∧ c ∉ g.firstBreak ∧ c ∉ g.moreBreaks) (x : Char) :
    c ∉ (g.take x).blanks ∧ c ∉ (g.take x).firstBreak ∧ c ∉ (g.take x).moreBreaks := by
  have other : c ∉ (if isSeparator x then [x] else ['\n']) := by
    split
    · rename_i separates
      rintro (- | ⟨_, ⟨⟩⟩)
      rw [loses] at separates
      cases separates
    · rintro (- | ⟨_, ⟨⟩⟩)
      exact feed rfl
  unfold Gap.take
  split
  · unfold Gap.addBreak
    split
    · simp [absent, other]
    · exact ⟨List.not_mem_nil, other, absent.2.2⟩
  · rename_i inside
    have blank : c ≠ x := by
      rintro rfl
      exact inside ends
    unfold Gap.addBlank
    split
    · exact absent
    · simp [absent, blank]

theorem not_mem_text {c : Char} (ends : isBreak c = true)
    (absent : c ∉ g.blanks ∧ c ∉ g.firstBreak ∧ c ∉ g.moreBreaks) : c ∉ g.text := by
  have space : c ∉ [' '] := by
    rintro (- | ⟨_, ⟨⟩⟩)
    cases ends
  unfold Gap.text
  split
  · exact absent.1
  · split
    · split
      · exact space
      · exact absent.2.2
    · simp [absent]

theorem not_mem_reread? {c : Char} (ends : isBreak c = true) (feed : c ≠ '\n')
    (loses : isSeparator c = false)
    (absent : c ∉ g.blanks ∧ c ∉ g.firstBreak ∧ c ∉ g.moreBreaks)
    (read : reread? g first s = some w) : c ∉ w := by
  induction s generalizing g first w with
  | nil =>
    cases read
    exact not_mem_text ends absent
  | cons x s ih =>
    rw [reread?] at read
    split at read
    · exact ih (not_mem_take ends feed loses absent x) read
    · rename_i ordinary
      split at read
      · cases read
      · obtain ⟨w', later, rfl⟩ := Option.map_eq_some_iff.1 read
        have elsewhere : c ≠ x := by
          rintro rfl
          simp [isFolded, ends, feed] at ordinary
        rw [List.mem_append, List.mem_cons, not_or, not_or]
        exact ⟨not_mem_text ends absent, elsewhere, ih ⟨by simp, by simp, by simp⟩ later⟩

/-! ## Blanks that are lost -/

/-- Before the first line end there are no further ones. -/
def Gap.Tidy (g : Gap) : Prop := g.broken = false → g.moreBreaks = []

theorem Gap.Tidy.take (tidy : g.Tidy) (x : Char) : (g.take x).Tidy := by
  unfold Gap.take
  split
  · unfold Gap.addBreak
    split
    · rename_i broken
      intro unbroken
      cases broken.symm.trans unbroken
    · exact fun absurd => by cases absurd
  · unfold Gap.addBlank
    split
    · exact tidy
    · exact tidy

/-- A character adds no more than one to what a gap stands for. -/
theorem length_text_take_le (tidy : g.Tidy) (x : Char) :
    (g.take x).text.length ≤ g.text.length + 1 := by
  obtain ⟨e, single⟩ : ∃ e, (if isSeparator x then [x] else ['\n']) = [e] := by
    split
    · exact ⟨x, rfl⟩
    · exact ⟨'\n', rfl⟩
  unfold Gap.take
  rw [single]
  cases broken : g.broken with
  | false =>
    have none := tidy broken
    split
    · by_cases feed : e = '\n' <;> simp [Gap.addBreak, Gap.text, broken, none, feed]
    · simp [Gap.addBlank, Gap.text, broken]
  | true =>
    split
    · by_cases feed : g.firstBreak = ['\n']
      · by_cases more : g.moreBreaks = [] <;>
          simp [Gap.addBreak, Gap.text, broken, feed, more]
      · simp [Gap.addBreak, Gap.text, broken, feed]
        omega
    · unfold Gap.addBlank
      rw [broken, if_pos rfl]
      exact Nat.le_succ _

/-- What is read is no longer than what was there. -/
theorem length_reread?_le (tidy : g.Tidy) (read : reread? g first s = some w) :
    w.length ≤ g.text.length + s.length := by
  induction s generalizing g first w with
  | nil =>
    cases read
    exact Nat.le_add_right _ _
  | cons x s ih =>
    rw [reread?] at read
    rw [List.length_cons]
    split at read
    · have taken := length_text_take_le tidy x
      have rest := ih (tidy.take x) read
      omega
    · split at read
      · cases read
      · obtain ⟨w', later, rfl⟩ := Option.map_eq_some_iff.1 read
        have rest : w'.length ≤ 0 + s.length := ih (fun _ => rfl) later
        rw [List.length_append, List.length_cons]
        omega

/-- The gap has lost nothing of `u`: blanks alone or separators alone. -/
inductive Gap.Holds : Gap → List Char → Prop
  | blanks {u : List Char} (all : ∀ c ∈ u, isGap c = true) : Holds { blanks := u } u
  | separators {a : Char} {t : List Char} (all : ∀ c ∈ a :: t, isSeparator c = true) :
    Holds ⟨[], true, [a], t⟩ (a :: t)

theorem Gap.Holds.text (h : g.Holds u) : g.text = u := by
  cases h with
  | blanks all => rfl
  | @separators a t all =>
    have feed : a ≠ '\n' := by
      rintro rfl
      cases all '\n' List.mem_cons_self
    simp [Gap.text, feed]

theorem Gap.Holds.tidy (h : g.Holds u) : g.Tidy := by
  cases h with
  | blanks all => exact fun _ => rfl
  | separators all => exact fun absurd => by cases absurd

/-- Blanks alone and separators alone stay. -/
theorem Gap.Holds.isChain (h : g.Holds u) : u.IsChain Joins := by
  refine List.Pairwise.isChain (List.pairwise_of_forall_mem_list fun a first b second => ?_)
  cases h with
  | blanks all =>
    have none {c : Char} (member : c ∈ u) : ¬ isSeparator c = true := by
      intro separates
      have blank := all c member
      rw [not_isGap_of_isSeparator separates] at blank
      cases blank
    exact ⟨fun both => none second both.2, fun both => none first both.1⟩
  | @separators x t all =>
    have none {c : Char} (member : c ∈ x :: t) : ¬ isGap c = true := by
      rw [not_isGap_of_isSeparator (all c member)]
      exact Bool.false_ne_true
    exact ⟨fun both => none first both.1, fun both => none second both.2⟩

/-- The next blank or line end adds to what a gap holds, or something is lost. -/
theorem Gap.Holds.take (h : g.Holds u) (folded : isFolded x = true)
    (kept : x ≠ '\r' ∧ x ≠ '\u0085') :
    (g.take x).Holds (u ++ [x]) ∨
      (g.take x).text.length ≤ u.length ∧ ∀ s, ¬ (u ++ x :: s).IsChain Joins := by
  rcases isGap_or_isSeparator folded kept with blank | separates
  · have inside := isBreak_of_isGap blank
    cases h with
    | blanks all =>
      have longer : ({ blanks := u } : Gap).take x = { blanks := u ++ [x] } := by
        simp [Gap.take, inside, Gap.addBlank]
      rw [longer]
      refine Or.inl (.blanks fun c member => ?_)
      rcases List.mem_append.1 member with before | last
      · exact all c before
      · rw [List.mem_singleton.1 last]
        exact blank
    | @separators a t all =>
      have same : (⟨[], true, [a], t⟩ : Gap).take x = ⟨[], true, [a], t⟩ := by
        simp [Gap.take, inside, Gap.addBlank]
      refine Or.inr ⟨?_, fun s chain => ?_⟩
      · rw [same, (Holds.separators all).text]
      · have last := List.getLast_mem_getLast? (List.cons_ne_nil a t)
        have pair := (List.isChain_append.1 chain).2.2 _ last x rfl
        exact pair.2 ⟨all _ (List.getLast_mem _), blank⟩
  · have ends := isBreak_of_isSeparator separates
    cases h with
    | blanks all =>
      have broken : ({ blanks := u } : Gap).take x = ⟨[], true, [x], []⟩ := by
        simp [Gap.take, ends, separates, Gap.addBreak]
      have alone : (⟨[], true, [x], []⟩ : Gap).Holds [x] :=
        .separators fun c member => by rwa [List.mem_singleton.1 member]
      rw [broken]
      cases u with
      | nil => exact Or.inl alone
      | cons b u =>
        refine Or.inr ⟨?_, fun s chain => ?_⟩
        · rw [alone.text, List.length_cons]
          exact Nat.succ_le_succ (Nat.zero_le _)
        · have last := List.getLast_mem_getLast? (List.cons_ne_nil b u)
          have pair := (List.isChain_append.1 chain).2.2 _ last x rfl
          exact pair.1 ⟨all _ (List.getLast_mem _), separates⟩
    | @separators a t all =>
      have longer : (⟨[], true, [a], t⟩ : Gap).take x = ⟨[], true, [a], t ++ [x]⟩ := by
        simp [Gap.take, ends, separates, Gap.addBreak]
      rw [longer]
      refine Or.inl (.separators fun c member => ?_)
      rcases List.mem_append.1 (show c ∈ (a :: t) ++ [x] from member) with before | last
      · exact all c before
      · rw [List.mem_singleton.1 last]
        exact separates

/-- What is read is what was there just if no blank stood beside a separator. -/
theorem reread?_eq_append_iff (kept : ∀ c ∈ s, c ≠ '\r' ∧ c ≠ '\u0085') (h : g.Holds u)
    (read : reread? g first s = some w) : w = u ++ s ↔ (u ++ s).IsChain Joins := by
  induction s generalizing g first u w with
  | nil =>
    cases read
    rw [h.text, List.append_nil]
    exact iff_of_true rfl h.isChain
  | cons x s ih =>
    have later : ∀ c ∈ s, c ≠ '\r' ∧ c ≠ '\u0085' :=
      fun c member => kept c (List.mem_cons_of_mem _ member)
    rw [reread?] at read
    split at read
    · rename_i folded
      rcases h.take folded (kept x List.mem_cons_self) with longer | ⟨short, broken⟩
      · have rest := ih later longer read
        rwa [List.append_assoc, List.singleton_append] at rest
      · refine iff_of_false ?_ (broken s)
        rintro rfl
        have le := length_reread?_le (h.tidy.take x) read
        rw [List.length_append, List.length_cons] at le
        omega
    · rename_i ordinary
      split at read
      · cases read
      · obtain ⟨w', further, rfl⟩ := Option.map_eq_some_iff.1 read
        have rest := ih later (.blanks (u := []) (by simp)) further
        obtain ⟨blank, separates⟩ := not_isGap_of_not_isFolded ordinary
        have apart (a : Char) : Joins a x ∧ Joins x a := by
          simp [Joins, blank, separates]
        rw [h.text, List.append_cancel_left_eq, List.cons_inj_right, ← List.nil_append s, rest,
          List.nil_append, List.isChain_append, List.isChain_cons]
        refine ⟨fun chain => ⟨h.isChain, ⟨fun y _ => (apart y).2, chain⟩, ?_⟩, fun all => all.2.1.2⟩
        rintro a - b ⟨⟩
        exact (apart a).1

/-! ## Lines between documents -/

/-- Reading fails just where a line between documents comes up. -/
theorem reread?_eq_none_iff : reread? g first s = none ↔
    (first = true ∧ startsMark s = true) ∨
      ∃ a t, a :: t <:+ s ∧ isBreak a = true ∧ a ≠ '\n' ∧ startsMark t = true := by
  induction s generalizing g first with
  | nil =>
    refine iff_of_false (fun absurd => by cases absurd) ?_
    rintro (⟨-, ⟨⟩⟩ | ⟨a, t, suffix, -⟩)
    cases List.suffix_nil.1 suffix
  | cons x s ih =>
    have around : (∃ a t, a :: t <:+ x :: s ∧ isBreak a = true ∧ a ≠ '\n' ∧
        startsMark t = true) ↔ (isBreak x = true ∧ x ≠ '\n' ∧ startsMark s = true) ∨
          ∃ a t, a :: t <:+ s ∧ isBreak a = true ∧ a ≠ '\n' ∧ startsMark t = true := by
      constructor
      · rintro ⟨a, t, suffix, marks⟩
        rcases List.suffix_cons_iff.1 suffix with same | inside
        · cases same
          exact Or.inl marks
        · exact Or.inr ⟨a, t, inside, marks⟩
      · rintro (marks | ⟨a, t, inside, marks⟩)
        · exact ⟨x, s, List.suffix_refl _, marks⟩
        · exact ⟨a, t, inside.trans (List.suffix_cons _ _), marks⟩
    rw [around, reread?]
    split
    · rename_i folded
      have feed : x ≠ '\n' := by
        rintro rfl
        cases folded
      have bar : x ≠ '-' ∧ x ≠ '.' := by
        constructor
        · rintro rfl
          cases folded
        · rintro rfl
          cases folded
      simp only [ih, startsMark_cons_of_ne s bar.1 bar.2, feed, ne_eq, not_false_eq_true, true_and,
        Bool.false_eq_true, and_false, false_or]
    · rename_i ordinary
      have inside : ¬ (isBreak x = true ∧ x ≠ '\n' ∧ startsMark s = true) := by
        rintro ⟨ends, feed, -⟩
        exact ordinary (by simp [isFolded, ends, feed])
      rw [or_iff_right inside]
      split
      · rename_i marked
        exact iff_of_true rfl (Or.inl (by simpa using marked))
      · rename_i unmarked
        rw [Option.map_eq_none_iff, ih]
        simp only [Bool.false_eq_true, false_and, false_or]
        exact (or_iff_right (by simpa using unmarked)).symm

end Lost

/-- **Which texts are read as they were before they were escaped.** -/
theorem reread?_eq_self_iff {s : List Char} : reread? {} false s = some s ↔ Unfolded s := by
  have holds : Gap.Holds {} [] := .blanks (by simp)
  constructor
  · intro read
    have kept : ∀ c ∈ s, c ≠ '\r' ∧ c ≠ '\u0085' := by
      intro c member
      constructor
      · rintro rfl
        exact not_mem_reread? rfl (by decide) rfl ⟨by simp, by simp, by simp⟩ read member
      · rintro rfl
        exact not_mem_reread? rfl (by decide) rfl ⟨by simp, by simp, by simp⟩ read member
    refine ⟨kept, (reread?_eq_append_iff kept holds read).1 rfl, fun a t suffix separates => ?_⟩
    rw [Bool.eq_false_iff]
    intro marks
    have feed : a ≠ '\n' := by
      rintro rfl
      cases separates
    have fails : reread? {} false s = none := reread?_eq_none_iff.2
      (Or.inr ⟨a, t, suffix, isBreak_of_isSeparator separates, feed, marks⟩)
    cases read.symm.trans fails
  · intro h
    cases read : reread? {} false s with
    | none =>
      rcases reread?_eq_none_iff.1 read with ⟨absurd, -⟩ | ⟨a, t, suffix, ends, feed, marks⟩
      · cases absurd
      · have separates := isSeparator_of_isBreak ends feed
          (h.kept a (suffix.subset List.mem_cons_self))
        rw [h.unmarked a t suffix separates] at marks
        cases marks
    | some w =>
      rw [(reread?_eq_append_iff h.kept holds read).2 h.joined]
      rfl

instance (s : List Char) : Decidable (Unfolded s) := decidable_of_iff _ reread?_eq_self_iff

end Formulary.Yaml
