import Formulary.Proofs.Gate
import Mathlib.Order.Bounds.Defs

/-!
# The block of a text

A text is cut at its first opening pair of braces, and what follows at its last closing pair. So the
block is the outermost one that any two pairs in order make: none opens before it, none closes after
it, and nothing of the text is lost (`Parts.Outermost`). First and last are said of the places at
which a pair stands in the text; these are looked at as the ways to take the text apart around a
pair, which reads the same from both ends.

* `ofText_outermost`: a text with two pairs in order is taken apart at its outermost block, any
  other is left whole, and a blank block is left out without a look-up.
-/

namespace Formulary.Text

variable {needle s before after u v : List Char} {i j : Nat}

/-- `needle` stands at a place of the text. -/
def OccursAt (needle s : List Char) (i : Nat) : Prop := needle <+: s.drop i

instance : Decidable (OccursAt needle s i) := inferInstanceAs (Decidable (needle <+: s.drop i))

theorem occursAt_length (needle u v : List Char) : OccursAt needle (u ++ needle ++ v) u.length := by
  rw [OccursAt, List.append_assoc, List.drop_left]
  exact List.prefix_append needle v

theorem occursAt_append_iff :
    OccursAt needle (u ++ v) (u.length + i) ↔ OccursAt needle v i := by
  rw [OccursAt, OccursAt, List.drop_length_add_append]

/-- The places of `needle` are the ways to take the text apart around it. -/
theorem OccursAt.exists_append (occurs : OccursAt needle s i) (filled : needle ≠ []) :
    ∃ u v, s = u ++ needle ++ v ∧ u.length = i := by
  obtain ⟨v, rest⟩ := occurs
  have inside : i ≤ s.length := by
    by_contra beyond
    rw [List.drop_eq_nil_of_le (by omega)] at rest
    exact filled (List.append_eq_nil_iff.1 rest).1
  refine ⟨s.take i, v, ?_, List.length_take_of_le inside⟩
  rw [List.append_assoc, rest, List.take_append_drop]

/-! ## The first occurrence -/

/-- What does not stand at the front makes no front. -/
theorem ne_append_of_isPrefixOf?_eq_none (elsewhere : needle.isPrefixOf? s = none) :
    s ≠ needle ++ v := by
  rintro rfl
  have here : (needle.isPrefixOf? (needle ++ v)).isSome = true := by
    rw [List.isSome_isPrefixOf?_eq_isPrefixOf, List.isPrefixOf_iff_prefix]
    exact List.prefix_append needle v
  rw [elsewhere] at here
  cases here

theorem cut?_first (found : cut? needle s = some (before, after)) (split : s = u ++ needle ++ v) :
    before.length ≤ u.length := by
  induction s generalizing before u with
  | nil =>
    rw [cut?] at found
    split at found
    · cases found
      exact Nat.zero_le _
    · cases found
  | cons c s ih =>
    rw [cut?] at found
    split at found
    · cases found
      exact Nat.zero_le _
    · rename_i elsewhere
      obtain ⟨⟨before', after'⟩, later, shape⟩ := Option.map_eq_some_iff.1 found
      cases shape
      cases u with
      | nil => exact absurd split (ne_append_of_isPrefixOf?_eq_none elsewhere)
      | cons d u =>
        exact Nat.succ_le_succ (ih later (List.cons.inj split).2)

/-- In front of the first occurrence there is none. -/
theorem cut?_clear (found : cut? needle s = some (before, after)) (filled : needle ≠ []) :
    ¬ needle <:+: before := by
  rintro ⟨u, v, rfl⟩
  have first := cut?_first (u := u) (v := v ++ needle ++ after) found (by
    rw [Template.cut?_eq_some found]
    simp only [List.append_assoc])
  rw [List.length_append, List.length_append] at first
  have := List.length_pos_of_ne_nil filled
  omega

theorem exists_cut? (split : s = u ++ needle ++ v) :
    ∃ before after, cut? needle s = some (before, after) := by
  induction s generalizing u with
  | nil =>
    obtain ⟨front, -⟩ := List.append_eq_nil_iff.1 split.symm
    rw [(List.append_eq_nil_iff.1 front).2]
    exact ⟨[], [], rfl⟩
  | cons c s ih =>
    rw [cut?]
    split
    · exact ⟨[], _, rfl⟩
    · rename_i elsewhere
      cases u with
      | nil => exact absurd split (ne_append_of_isPrefixOf?_eq_none elsewhere)
      | cons d u =>
        obtain ⟨before, after, found⟩ := ih (List.cons.inj split).2
        exact ⟨c :: before, after, by rw [found]; rfl⟩

/-! ## The last occurrence -/

theorem reverse_split (split : s = u ++ needle ++ v) :
    s.reverse = v.reverse ++ needle.reverse ++ u.reverse := by
  rw [split, List.reverse_append, List.reverse_append, List.append_assoc]

theorem cutLast?_last (found : cutLast? needle s = some (before, after))
    (split : s = u ++ needle ++ v) : after.length ≤ v.length := by
  obtain ⟨⟨after', before'⟩, cut, shape⟩ := Option.map_eq_some_iff.1 found
  cases shape
  have first := cut?_first cut (reverse_split split)
  rwa [List.length_reverse] at first ⊢

/-- After the last occurrence there is none. -/
theorem cutLast?_clear (found : cutLast? needle s = some (before, after)) (filled : needle ≠ []) :
    ¬ needle <:+: after := by
  obtain ⟨⟨after', before'⟩, cut, shape⟩ := Option.map_eq_some_iff.1 found
  cases shape
  rw [← List.reverse_infix, List.reverse_reverse]
  exact cut?_clear cut (List.reverse_ne_nil_iff.2 filled)

theorem exists_cutLast? (split : s = u ++ needle ++ v) :
    ∃ before after, cutLast? needle s = some (before, after) := by
  obtain ⟨after, before, found⟩ := exists_cut? (reverse_split split)
  exact ⟨before.reverse, after.reverse, by rw [cutLast?, found]; rfl⟩

end Formulary.Text

namespace Formulary.Template

open Text (OccursAt)

variable {raw before expression after : List Char}

/-- Two pairs of braces stand in the text, one that opens and after it one that closes. -/
def HasBlock (raw : List Char) : Prop :=
  ∃ i j, OccursAt openBlock raw i ∧ OccursAt closeBlock raw j ∧ i + 2 ≤ j

/-- The text is taken apart at the outermost block that it has. -/
structure Parts.Outermost (p : Parts) (raw : List Char) : Prop where
  whole : p.before ++ openBlock ++ p.expression ++ closeBlock ++ p.after = raw
  opens : IsLeast {i | OccursAt openBlock raw i} p.before.length
  closes : IsGreatest {j | OccursAt closeBlock raw j} (p.before.length + 2 + p.expression.length)
  before_clear : ¬ openBlock <:+: p.before
  after_clear : ¬ closeBlock <:+: p.after

theorem HasBlock.exists_cuts (has : HasBlock raw) : ∃ before rest expression after,
    Text.cut? openBlock raw = some (before, rest) ∧
      Text.cutLast? closeBlock rest = some (expression, after) := by
  obtain ⟨i, j, opens, closes, ordered⟩ := has
  obtain ⟨u, v, shape, rfl⟩ := opens.exists_append (by decide)
  obtain ⟨before, rest, opened⟩ := Text.exists_cut? shape
  -- a pair that closes after any opening one closes after the first one
  have first := Text.cut?_first opened shape
  obtain ⟨k, rfl⟩ : ∃ k, j = (before ++ openBlock).length + k := by
    refine Nat.exists_eq_add_of_le ?_
    rw [List.length_append]
    exact Nat.le_trans (Nat.add_le_add_right first 2) ordered
  rw [cut?_eq_some opened, Text.occursAt_append_iff] at closes
  obtain ⟨u', v', shape', -⟩ := closes.exists_append (by decide)
  obtain ⟨expression, after, closed⟩ := Text.exists_cutLast? shape'
  exact ⟨before, rest, expression, after, opened, closed⟩

section

variable {rest : List Char} (opened : Text.cut? openBlock raw = some (before, rest))
  (closed : Text.cutLast? closeBlock rest = some (expression, after))

include opened closed

theorem ofText_of_cuts : Parts.ofText raw = ⟨before, expression, after⟩ := by
  unfold Parts.ofText
  rw [opened]
  dsimp only
  rw [closed]

theorem outermost_of_cuts : Parts.Outermost ⟨before, expression, after⟩ raw := by
  have front : raw = (before ++ openBlock) ++ rest := cut?_eq_some opened
  have back : rest = expression ++ closeBlock ++ after := cutLast?_eq_some closed
  have whole : raw = before ++ openBlock ++ expression ++ closeBlock ++ after := by
    rw [front, back]
    simp only [List.append_assoc]
  refine ⟨whole.symm, ⟨?_, ?_⟩, ⟨?_, ?_⟩, ?_, ?_⟩
  · show Text.OccursAt openBlock raw before.length
    rw [front]
    exact Text.occursAt_length openBlock before rest
  · intro i occurs
    obtain ⟨u, v, shape, rfl⟩ := Text.OccursAt.exists_append occurs (by decide)
    exact Text.cut?_first opened shape
  · have here := Text.occursAt_length closeBlock (before ++ openBlock ++ expression) after
    rw [← whole, List.length_append, List.length_append] at here
    exact here
  · intro j occurs
    have occurs : Text.OccursAt closeBlock raw j := occurs
    rcases Nat.lt_or_ge j (before ++ openBlock).length with early | late
    · rw [List.length_append] at early
      exact Nat.le_trans (Nat.le_of_lt early) (Nat.le_add_right _ _)
    · obtain ⟨k, rfl⟩ := Nat.exists_eq_add_of_le late
      rw [front, Text.occursAt_append_iff] at occurs
      obtain ⟨u, v, shape, rfl⟩ := occurs.exists_append (by decide)
      have last := Text.cutLast?_last closed shape
      have lengths := congrArg List.length (shape.symm.trans back)
      simp only [List.length_append] at lengths ⊢
      show before.length + 2 + u.length ≤ before.length + 2 + expression.length
      omega
  · exact Text.cut?_clear opened (by decide)
  · exact Text.cutLast?_clear closed (by decide)

end

theorem outermost_of_hasBlock (has : HasBlock raw) : (Parts.ofText raw).Outermost raw := by
  obtain ⟨before, rest, expression, after, opened, closed⟩ := has.exists_cuts
  rw [ofText_of_cuts opened closed]
  exact outermost_of_cuts opened closed

theorem Parts.Outermost.hasBlock {p : Parts} (outermost : p.Outermost raw) : HasBlock raw :=
  ⟨_, _, outermost.opens.1, outermost.closes.1, Nat.le_add_right _ _⟩

theorem ofText_of_not_hasBlock (none : ¬ HasBlock raw) : Parts.ofText raw = ⟨raw, [], []⟩ := by
  unfold Parts.ofText
  split
  · rfl
  · rename_i opened
    split
    · rfl
    · rename_i closed
      exact absurd (outermost_of_cuts opened closed).hasBlock none

theorem isLiteral_of_blank {p : Parts} (blank : ∀ c ∈ p.expression, Text.isBlank c = true) :
    p.isLiteral = true := by
  have start : Text.trimStart p.expression = [] := List.dropWhile_eq_nil_iff.2 blank
  unfold Parts.isLiteral Text.trim
  rw [start]
  rfl

/-- **The block of a text is the outermost one, and nothing is lost.** A text in which one pair of
braces closes after another one opens is taken apart at the first pair that opens and the last one
that closes; the parts make up the text, and no pair opens before the block or closes after it.
Every other text is left whole. If the block is blank the value is the text without it, with no
look-up and no notice. -/
theorem ofText_outermost (raw : String) :
    (HasBlock raw.toList → (Parts.ofText raw.toList).Outermost raw.toList) ∧
    (¬ HasBlock raw.toList → Parts.ofText raw.toList = ⟨raw.toList, [], []⟩) ∧
    ((∀ c ∈ (Parts.ofText raw.toList).expression, Text.isBlank c = true) →
      ∀ (now : Calendar.Instant) (store : DocumentStore) (context : Context) (trace : Trace),
        (evaluateText now store context raw).run trace =
          (.string (String.ofList
            ((Parts.ofText raw.toList).before ++ (Parts.ofText raw.toList).after)), trace)) := by
  refine ⟨outermost_of_hasBlock, ofText_of_not_hasBlock, fun blank now store context trace => ?_⟩
  unfold evaluateText
  dsimp only
  rw [if_pos (isLiteral_of_blank blank)]
  rfl

/-- Three braces that open, a pair that closes inside, and a blank block; pairs the wrong way
round make no block. -/
theorem ofText_outermost_braces :
    HasBlock "a\x7b\x7b\x7bb\x7d\x7d é\x7d\x7d\x7dc".toList ∧
    (Parts.ofText "a\x7b\x7b\x7bb\x7d\x7d é\x7d\x7d\x7dc".toList).Outermost
      "a\x7b\x7b\x7bb\x7d\x7d é\x7d\x7d\x7dc".toList ∧
    ¬ HasBlock "\x7d\x7d\x7b\x7b".toList ∧
    Parts.ofText "\x7d\x7d\x7b\x7b".toList = ⟨"\x7d\x7d\x7b\x7b".toList, [], []⟩ ∧
    (∀ c ∈ (Parts.ofText "a\x7b\x7b \x7d\x7dc".toList).expression, Text.isBlank c = true) ∧
    ∀ (now : Calendar.Instant) (store : DocumentStore) (context : Context) (trace : Trace),
      (evaluateText now store context "a\x7b\x7b \x7d\x7dc").run trace = (.string "ac", trace) := by
  have block : HasBlock "a\x7b\x7b\x7bb\x7d\x7d é\x7d\x7d\x7dc".toList :=
    ⟨1, 10, by decide +kernel, by decide +kernel, by decide⟩
  have reversed : ¬ HasBlock "\x7d\x7d\x7b\x7b".toList := by
    rintro has
    have lost := ((ofText_outermost "\x7d\x7d\x7b\x7b").1 has).whole
    exact absurd lost (by decide +kernel)
  have blank : ∀ c ∈ (Parts.ofText "a\x7b\x7b \x7d\x7dc".toList).expression,
      Text.isBlank c = true := by
    decide +kernel
  exact ⟨block, (ofText_outermost _).1 block, reversed, (ofText_outermost _).2.1 reversed, blank,
    (ofText_outermost _).2.2 blank⟩

end Formulary.Template
