import Formulary.Proofs.Outermost
import Formulary.Script.Eval

/-!
# Splitting, joining and replacing

`split` and `replaceAll` walk a text each on its own, and `join` knows of no text at all. The two
walks stop at the same places: the occurrences from left to right, none of them overlapping the one
before it (`Text.Parted`). So what `replaceAll` writes is the pieces of `split` with the replacement
between them, and with the separator between them these are the text.

* `split_join_replaceAll`: splitting and joining by one text gives the text back, and replacing is
  splitting and joining.
-/

namespace Formulary.Text

variable {needle s after : List Char}

/-- `pieces` are left of the text by the occurrences of `needle`, where an occurrence counts if it
is the first one behind the last that counted. -/
inductive Parted (needle : List Char) : List Char → List (List Char) → Prop
  | last {s : List Char} (clear : ¬ needle <:+: s) : Parted needle s [s]
  | cut {before after : List Char} {pieces : List (List Char)}
    (first : ∀ u v, before ++ needle ++ after = u ++ needle ++ v → before.length ≤ u.length)
    (others : Parted needle after pieces) :
    Parted needle (before ++ needle ++ after) (before :: pieces)

/-! ## Behind an occurrence -/

/-- The characters left of an occurrence are passed over. -/
theorem splitFrom_skip (needle piece : List Char) (skip : Nat) (s : List Char) :
    splitFrom needle piece skip s = splitFrom needle piece 0 (s.drop skip) := by
  induction s generalizing skip with
  | nil => rw [List.drop_nil, splitFrom, splitFrom]
  | cons c s ih =>
    cases skip with
    | zero => rfl
    | succ k =>
      rw [splitFrom, List.drop_succ_cons]
      exact ih k

/-- An occurrence has one character that is looked at and the others that are passed over. -/
theorem drop_of_isPrefixOf? {c : Char} (filled : needle ≠ [])
    (found : needle.isPrefixOf? (c :: s) = some after) : s.drop (needle.length - 1) = after := by
  have shape := List.append_eq_of_isPrefixOf?_eq_some found
  cases needle with
  | nil => exact absurd rfl filled
  | cons d needle =>
    rw [List.cons_append, List.cons.injEq] at shape
    rw [← shape.2, List.length_cons, Nat.add_sub_cancel, List.drop_left]

/-! ## The pieces -/

/-- Splitting cuts at the first occurrence and goes on behind it. -/
theorem splitFrom_eq (filled : needle ≠ []) (piece s : List Char) :
    splitFrom needle piece 0 s =
      match cut? needle s with
      | none => [piece.reverse ++ s]
      | some (before, after) => (piece.reverse ++ before) :: splitOn needle after := by
  induction s generalizing piece with
  | nil =>
    rw [cut?, if_neg (by simpa using filled), splitFrom, List.append_nil]
  | cons c s ih =>
    rw [splitFrom, cut?, ← List.isSome_isPrefixOf?_eq_isPrefixOf]
    cases found : needle.isPrefixOf? (c :: s) with
    | some after =>
      rw [splitFrom_skip, drop_of_isPrefixOf? filled found]
      simp [splitOn]
    | none =>
      rw [Option.isSome_none, if_neg Bool.false_ne_true, ih]
      cases cut? needle s <;> simp

theorem splitOn_of_cut?_eq_none (filled : needle ≠ []) (none : cut? needle s = none) :
    splitOn needle s = [s] := by
  rw [splitOn, splitFrom_eq filled, none]
  rfl

theorem splitOn_of_cut?_eq_some {before : List Char} (filled : needle ≠ [])
    (found : cut? needle s = some (before, after)) :
    splitOn needle s = before :: splitOn needle after := by
  rw [splitOn, splitFrom_eq filled, found]
  rfl

/-- **Splitting takes the occurrences from left to right.** -/
theorem parted_splitOn (filled : needle ≠ []) (s : List Char) :
    Parted needle s (splitOn needle s) := by
  induction length : s.length using Nat.strong_induction_on generalizing s with
  | _ n ih =>
    cases found : cut? needle s with
    | none =>
      rw [splitOn_of_cut?_eq_none filled found]
      refine .last fun inside => ?_
      obtain ⟨u, v, split⟩ := inside
      obtain ⟨before, after, found'⟩ := exists_cut? split.symm
      cases found.symm.trans found'
    | some cut =>
      obtain ⟨before, after⟩ := cut
      rw [splitOn_of_cut?_eq_some filled found]
      have whole := Template.cut?_eq_some found
      have shorter : after.length < n := by
        have := List.length_pos_of_ne_nil filled
        rw [← length, whole, List.length_append, List.length_append]
        omega
      have first (u v : List Char) (split : before ++ needle ++ after = u ++ needle ++ v) :
          before.length ≤ u.length := cut?_first found (whole.trans split)
      rw [whole]
      exact .cut first (ih after.length shorter after rfl)

/-! ## Replacing -/

theorem splitFrom_ne_nil (needle piece : List Char) (skip : Nat) (s : List Char) :
    splitFrom needle piece skip s ≠ [] := by
  fun_induction splitFrom needle piece skip s with
  | case1 => exact List.cons_ne_nil _ _
  | case2 _ _ _ _ ih => exact ih
  | case3 => exact List.cons_ne_nil _ _
  | case4 _ _ _ _ ih => exact ih

theorem join_cons (separator piece : List Char) {pieces : List (List Char)} (more : pieces ≠ []) :
    join separator (piece :: pieces) = piece ++ separator ++ join separator pieces := by
  obtain ⟨next, others, rfl⟩ := List.exists_cons_of_ne_nil more
  exact List.intercalate_cons_cons

/-- The two walks go side by side, with the piece under way written already. -/
theorem append_replaceFrom (needle replacement piece : List Char) (skip : Nat) (s : List Char) :
    piece.reverse ++ replaceFrom needle replacement skip s =
      join replacement (splitFrom needle piece skip s) := by
  fun_induction splitFrom needle piece skip s with
  | case1 piece => simp [replaceFrom, join]
  | case2 piece c s k ih =>
    rw [replaceFrom]
    exact ih
  | case3 piece c s occurs ih =>
    rw [join_cons _ _ (splitFrom_ne_nil _ _ _ _), ← ih, replaceFrom, if_pos occurs,
      List.reverse_nil, List.nil_append, List.append_assoc]
  | case4 piece c s elsewhere ih =>
    rw [← ih, replaceFrom, if_neg elsewhere, List.reverse_cons, List.append_assoc]
    rfl

/-- **Replacing is splitting and joining.** -/
theorem replaceAll_eq_join (needle replacement s : List Char) :
    replaceAll needle replacement s = join replacement (splitOn needle s) :=
  append_replaceFrom needle replacement [] 0 s

/-- A text put in its own place leaves all as it is. -/
theorem replaceFrom_self (filled : needle ≠ []) (skip : Nat) (s : List Char) :
    replaceFrom needle needle skip s = s.drop skip := by
  induction s generalizing skip with
  | nil => rw [replaceFrom, List.drop_nil]
  | cons c s ih =>
    cases skip with
    | succ k =>
      rw [replaceFrom, List.drop_succ_cons]
      exact ih k
    | zero =>
      rw [replaceFrom, ih, ih, ← List.isSome_isPrefixOf?_eq_isPrefixOf]
      cases found : needle.isPrefixOf? (c :: s) with
      | some after =>
        rw [drop_of_isPrefixOf? filled found]
        exact List.append_eq_of_isPrefixOf?_eq_some found
      | none => rfl

theorem replaceAll_self (filled : needle ≠ []) (s : List Char) : replaceAll needle needle s = s :=
  replaceFrom_self filled 0 s

theorem join_splitOn (filled : needle ≠ []) (s : List Char) :
    join needle (splitOn needle s) = s := by
  rw [← replaceAll_eq_join, replaceAll_self filled]

/-- The characters of a text side by side. -/
theorem join_characters (s : List Char) : join [] (s.map fun c => [c]) = s := by
  induction s with
  | nil => rfl
  | cons c s ih =>
    cases s with
    | nil => rfl
    | cons d s =>
      rw [List.map_cons, join_cons _ _ (by simp), ih]
      rfl

end Formulary.Text

namespace Formulary.Script

open Text (Parted)

/-! ## Methods -/

/-- The pieces that `split` makes: the characters, if the separator is empty. -/
def piecesOf (separator s : List Char) : List (List Char) :=
  if separator.isEmpty then s.map fun c => [c] else Text.splitOn separator s

theorem piecesOf_filled {separator : List Char} (filled : separator ≠ []) (s : List Char) :
    piecesOf separator s = Text.splitOn separator s :=
  if_neg (by simpa using filled)

theorem join_piecesOf (separator s : List Char) :
    Text.join separator (piecesOf separator s) = s := by
  cases separator with
  | nil => exact Text.join_characters s
  | cons c separator =>
    have filled := List.cons_ne_nil c separator
    rw [piecesOf_filled filled, Text.join_splitOn filled]

theorem display_textValue (s : List Char) : (textValue s).display = s := String.toList_ofList

theorem displayItems_texts (pieces : List (List Char)) :
    Json.displayItems (pieces.map textValue) = pieces := by
  induction pieces with
  | nil => rfl
  | cons piece pieces ih =>
    show (textValue piece).display :: Json.displayItems (pieces.map textValue) = _
    rw [ih, display_textValue]

theorem splitText_string (s : List Char) (separator : String) :
    splitText s (.string separator) = (piecesOf separator.toList s).map textValue := by
  rw [piecesOf, apply_ite (List.map textValue), List.map_map]
  rfl

theorem split_text (s separator : String) :
    callMethod (.string s) "split" [.value (.string separator)] =
      pure (.array ((piecesOf separator.toList s.toList).map textValue)) := by
  rw [← splitText_string]
  rfl

theorem join_texts (pieces : List (List Char)) (separator : String) :
    callMethod (.array (pieces.map textValue)) "join" [.value (.string separator)] =
      pure (textValue (Text.join separator.toList pieces)) := by
  show ExceptT.mk (pure (.ok (textValue (Text.join separator.toList
    (Json.displayItems (pieces.map textValue)))))) = _
  rw [displayItems_texts]
  rfl

theorem replaceAll_text (s replacement : String) {needle : String} (filled : needle ≠ "") :
    callMethod (.string s) "replaceAll" [.value (.string needle), .value (.string replacement)] =
      pure (textValue (Text.join replacement.toList (Text.splitOn needle.toList s.toList))) := by
  have notEmpty : needle.toList.isEmpty = false := by
    simpa [String.toList_eq_nil_iff] using filled
  show ExceptT.mk (pure (if needle.toList.isEmpty then _ else .ok (textValue
    (Text.replaceAll needle.toList replacement.toList s.toList)))) = _
  rw [notEmpty, if_neg Bool.false_ne_true, Text.replaceAll_eq_join]
  rfl

/-- The text split by a separator, with another text between the pieces. -/
def splitJoin (s separator glue : String) : EvalM Json := do
  let pieces ← callMethod (.string s) "split" [.value (.string separator)]
  callMethod pieces "join" [.value (.string glue)]

theorem splitJoin_eq (s separator glue : String) :
    splitJoin s separator glue =
      pure (textValue (Text.join glue.toList (piecesOf separator.toList s.toList))) := by
  unfold splitJoin
  rw [split_text, pure_bind, join_texts]

/-- **Splitting, joining and replacing agree.** Splitting and joining by one text, the empty one
included, gives the text back. Replacing a text that is not empty is splitting and joining: the
replacement stands between the pieces that the occurrences leave, and a text in place of itself
changes nothing. -/
theorem split_join_replaceAll (s separator replacement : String) :
    splitJoin s separator separator = pure (.string s) ∧
    ∀ needle : String, needle ≠ "" →
      (∃ pieces, Parted needle.toList s.toList pieces ∧
        callMethod (.string s) "replaceAll"
            [.value (.string needle), .value (.string replacement)] =
          pure (textValue (Text.join replacement.toList pieces))) ∧
      callMethod (.string s) "replaceAll" [.value (.string needle), .value (.string replacement)] =
        splitJoin s needle replacement ∧
      callMethod (.string s) "replaceAll" [.value (.string needle), .value (.string needle)] =
        pure (.string s) := by
  have whole (s : String) : textValue s.toList = .string s := by
    rw [textValue, String.ofList_toList]
  refine ⟨?_, fun needle filled => ?_⟩
  · rw [splitJoin_eq, join_piecesOf, whole]
  · have notNil : needle.toList ≠ [] := fun empty => filled (String.toList_eq_nil_iff.1 empty)
    refine ⟨⟨_, Text.parted_splitOn notNil s.toList, replaceAll_text s replacement filled⟩, ?_, ?_⟩
    · rw [replaceAll_text s replacement filled, splitJoin_eq, piecesOf_filled notNil]
    · rw [replaceAll_text s needle filled, Text.join_splitOn notNil, whole]

/-- Of three occurrences that overlap the first and the last count. -/
theorem split_join_replaceAll_overlapping :
    "aa" ≠ "" ∧
      callMethod (.string "aaaab") "replaceAll" [.value (.string "aa"), .value (.string "é")] =
        pure (.string "ééb") ∧
      splitJoin "aaaab" "aa" "é" = pure (.string "ééb") ∧
      callMethod (.string "aaaab") "replaceAll" [.value (.string "aa"), .value (.string "aa")] =
        pure (.string "aaaab") := by
  have filled : "aa" ≠ "" := by decide
  obtain ⟨-, same, self⟩ := (split_join_replaceAll "aaaab" "aa" "é").2 "aa" filled
  have written : callMethod (.string "aaaab") "replaceAll"
      [.value (.string "aa"), .value (.string "é")] = pure (.string "ééb") := by rfl
  exact ⟨filled, written, same.symm.trans written, self⟩

end Formulary.Script
