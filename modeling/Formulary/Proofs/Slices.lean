import Formulary.Proofs.Exact
import Formulary.Script.Eval

/-!
# Parts of texts and arrays

`slice` and `substring` take positions from any values at all. Whatever these are, what is cut out
stands between two positions of the text or array, in their order, and nothing is lost between the
part before a position and the part from it on.

* `cuts_within`: the positions of every cut are inside; the two parts at a position join to
  the whole; the positions of `substring` can be exchanged.
-/

namespace Formulary.Script

/-! ## Stretches of a list -/

section

variable {α : Type} {xs part : List α} {start stop : Nat}

/-- `part` is what stands in `xs` from `start` up to `stop`, two positions of `xs` in order. -/
structure Spans (xs : List α) (start stop : Nat) (part : List α) : Prop where
  ordered : start ≤ stop
  inside : stop ≤ xs.length
  whole : xs.take start ++ part ++ xs.drop stop = xs

/-- Positions the wrong way round have nothing between them. -/
theorem spans_between (first : start ≤ xs.length) (last : stop ≤ xs.length) :
    Spans xs start (max start stop) (between xs start stop) where
  ordered := Nat.le_max_left start stop
  inside := Nat.max_le.2 ⟨first, last⟩
  whole := by
    unfold between
    rcases Nat.le_total start stop with ordered | reversed
    · have front : xs.take start = (xs.take stop).take start := by
        rw [List.take_take, Nat.min_eq_left ordered]
      rw [Nat.max_eq_right ordered, front, List.take_append_drop, List.take_append_drop]
    · have none : (xs.take stop).drop start = [] :=
        List.drop_eq_nil_of_le (Nat.le_trans (List.length_take_le stop xs) reversed)
      rw [Nat.max_eq_left reversed, none, List.append_nil, List.take_append_drop]

theorem spans_between_sorted (first : start ≤ xs.length) (last : stop ≤ xs.length) :
    Spans xs (min start stop) (max start stop) (between xs (min start stop) (max start stop)) := by
  have sorted : min start stop ≤ max start stop :=
    Nat.le_trans (Nat.min_le_left start stop) (Nat.le_max_left start stop)
  have inside : max start stop ≤ xs.length := Nat.max_le.2 ⟨first, last⟩
  have spans := spans_between (Nat.le_trans sorted inside) inside
  rwa [Nat.max_eq_right sorted] at spans

theorem between_length (xs : List α) (start : Nat) :
    between xs start xs.length = xs.drop start := by
  rw [between, List.take_length]

end

/-! ## Positions -/

/-- A position is never beyond the end. -/
theorem positionOf_le (length : Nat) (v : Json) : positionOf length v ≤ length := by
  unfold positionOf
  dsimp only
  split
  · exact Nat.zero_le length
  · split
    · omega
    · exact Nat.min_le_right _ length

/-- The position that an argument gives to the start of a cut. -/
def startOf (args : List Arg) (length : Nat) : Nat :=
  Args.position (args.map Arg.value?) 0 length 0

/-- The position that an argument gives to the end of a cut. -/
def stopOf (args : List Arg) (length : Nat) : Nat :=
  Args.position (args.map Arg.value?) 1 length length

theorem position_le {args : Args} {i length default : Nat} (within : default ≤ length) :
    args.position i length default ≤ length := by
  unfold Args.position
  split
  · exact within
  · exact positionOf_le length _

theorem startOf_le (args : List Arg) (length : Nat) : startOf args length ≤ length :=
  position_le (Nat.zero_le length)

theorem stopOf_le (args : List Arg) (length : Nat) : stopOf args length ≤ length :=
  position_le (Nat.le_refl length)

theorem position_of_value {args : Args} {i length default : Nat} {v : Json}
    (given : args.value i = v) (present : v ≠ .null) :
    args.position i length default = positionOf length v := by
  unfold Args.position
  rw [given]
  split
  · exact absurd rfl present
  · rfl

theorem positionOf_zero (length : Nat) : positionOf length (.int 0) = 0 := by
  have whole : (Binary64.ofInt 0).Whole false 0 := Binary64.whole_ofInt (by decide)
  have isNumber : (Binary64.ofInt 0).isNaN = false := by
    obtain ⟨m, k, canonical, -, shape⟩ := whole
    rw [shape]
    rfl
  have truncated : (Binary64.ofInt 0).toInt64 = 0 := whole.toInt64 (by decide)
  unfold positionOf
  dsimp only [Json.toNumber]
  rw [isNumber, truncated]
  exact Nat.zero_min length

section

variable {a : Json} (present : a ≠ .null) (length : Nat)

include present

theorem startOf_of_value (more : List Arg) :
    startOf (.value a :: more) length = positionOf length a :=
  position_of_value rfl present

theorem stopOf_of_value (first : Arg) (more : List Arg) :
    stopOf (first :: .value a :: more) length = positionOf length a :=
  position_of_value rfl present

end

/-! ## Cuts -/

variable (s : String) (items : List Json) (args : List Arg)

theorem slice_text : callMethod (.string s) "slice" args =
    pure (textValue (between s.toList (startOf args s.toList.length)
      (stopOf args s.toList.length))) := rfl

theorem slice_array : callMethod (.array items) "slice" args =
    pure (.array (between items (startOf args items.length) (stopOf args items.length))) := rfl

theorem substring_text : callMethod (.string s) "substring" args =
    pure (textValue (between s.toList
      (min (startOf args s.toList.length) (stopOf args s.toList.length))
      (max (startOf args s.toList.length) (stopOf args s.toList.length)))) := rfl

theorem concat_texts (first second : List Char) :
    callMethod (textValue first) "concat" [.value (textValue second)] =
      pure (textValue (first ++ second)) := by
  show ExceptT.mk (pure (.ok (textValue ((String.ofList first).toList ++
    ((String.ofList second).toList ++ []))))) = _
  rw [String.toList_ofList, String.toList_ofList, List.append_nil]
  rfl

theorem concat_arrays (first second : List Json) :
    callMethod (.array first) "concat" [.value (.array second)] =
      pure (.array (first ++ second)) := by
  show ExceptT.mk (pure (.ok (Json.array (first ++ (second ++ []))))) = _
  rw [List.append_nil]
  rfl

/-! ## The two parts at a position -/

/-- The method cuts `v` into a part before the position that `a` gives and a part from it on, and
these join to `v`. -/
def Rejoins (method : String) (v a : Json) : Prop :=
  ∃ first second, callMethod v method [.value (.int 0), .value a] = pure first ∧
    callMethod v method [.value a] = pure second ∧
    callMethod first "concat" [.value second] = pure v

variable {s items} {a : Json}

theorem rejoins_text {method : String} (n : Nat)
    (before : callMethod (.string s) method [.value (.int 0), .value a] =
      pure (textValue (s.toList.take n)))
    (after : callMethod (.string s) method [.value a] = pure (textValue (s.toList.drop n))) :
    Rejoins method (.string s) a := by
  refine ⟨_, _, before, after, ?_⟩
  rw [concat_texts, List.take_append_drop, textValue, String.ofList_toList]

theorem rejoins_slice_text (present : a ≠ .null) : Rejoins "slice" (.string s) a := by
  refine rejoins_text (positionOf s.toList.length a) ?_ ?_
  · rw [slice_text, startOf_of_value (by simp), stopOf_of_value present, positionOf_zero]
    rfl
  · rw [slice_text, startOf_of_value present]
    exact congrArg (fun part => pure (textValue part)) (between_length _ _)

theorem rejoins_substring (present : a ≠ .null) : Rejoins "substring" (.string s) a := by
  refine rejoins_text (positionOf s.toList.length a) ?_ ?_
  · rw [substring_text, startOf_of_value (by simp), stopOf_of_value present, positionOf_zero,
      Nat.zero_min, Nat.zero_max]
    rfl
  · rw [substring_text, startOf_of_value present]
    show pure (textValue (between s.toList (min _ s.toList.length) (max _ s.toList.length))) = _
    rw [Nat.min_eq_left (positionOf_le _ a), Nat.max_eq_right (positionOf_le _ a), between_length]

theorem rejoins_slice_array (present : a ≠ .null) : Rejoins "slice" (.array items) a := by
  refine ⟨.array (items.take (positionOf items.length a)),
    .array (items.drop (positionOf items.length a)), ?_, ?_, ?_⟩
  · rw [slice_array, startOf_of_value (by simp), stopOf_of_value present, positionOf_zero]
    rfl
  · rw [slice_array, startOf_of_value present]
    exact congrArg (fun part => pure (Json.array part)) (between_length _ _)
  · rw [concat_arrays, List.take_append_drop]

/-- The order of its positions does not matter to `substring`. -/
theorem substring_swap (s : String) {a b : Json} (present : a ≠ .null) (present' : b ≠ .null) :
    callMethod (.string s) "substring" [.value a, .value b] =
      callMethod (.string s) "substring" [.value b, .value a] := by
  rw [substring_text, substring_text, startOf_of_value present, startOf_of_value present',
    stopOf_of_value present, stopOf_of_value present', Nat.min_comm, Nat.max_comm]

/-- **A cut never leaves its text or array and loses nothing.** Whatever the arguments are, what is
cut out stands between two positions from zero to the length, the first not behind the second; the
parts before and after a position join to the whole; `substring` takes its positions in any
order. -/
theorem cuts_within (s : String) (items : List Json) :
    (∀ args : List Arg,
      (∃ part, callMethod (.string s) "slice" args = pure (textValue part) ∧
        Spans s.toList (startOf args s.toList.length)
          (max (startOf args s.toList.length) (stopOf args s.toList.length)) part) ∧
      (∃ part, callMethod (.array items) "slice" args = pure (.array part) ∧
        Spans items (startOf args items.length)
          (max (startOf args items.length) (stopOf args items.length)) part) ∧
      ∃ part, callMethod (.string s) "substring" args = pure (textValue part) ∧
        Spans s.toList (min (startOf args s.toList.length) (stopOf args s.toList.length))
          (max (startOf args s.toList.length) (stopOf args s.toList.length)) part) ∧
    (∀ a : Json, a ≠ .null → Rejoins "slice" (.string s) a ∧ Rejoins "slice" (.array items) a ∧
      Rejoins "substring" (.string s) a) ∧
    ∀ a b : Json, a ≠ .null → b ≠ .null →
      callMethod (.string s) "substring" [.value a, .value b] =
        callMethod (.string s) "substring" [.value b, .value a] := by
  -- `slice` ends no earlier than it starts, `substring` takes its positions in order
  refine ⟨fun args => ⟨?_, ?_, ?_⟩, fun a present => ?_, fun a b => substring_swap s⟩
  · exact ⟨_, slice_text s args, spans_between (startOf_le args _) (stopOf_le args _)⟩
  · exact ⟨_, slice_array items args, spans_between (startOf_le args _) (stopOf_le args _)⟩
  · exact ⟨_, substring_text s args, spans_between_sorted (startOf_le args _) (stopOf_le args _)⟩
  · exact ⟨rejoins_slice_text present, rejoins_slice_array present, rejoins_substring present⟩

/-- The last three characters of a word, by a negative position; a text that is no number stands
for zero. -/
theorem cuts_within_hello :
    Json.int (-3) ≠ .null ∧ Json.string "x" ≠ .null ∧
      callMethod (.string "hello") "slice" [.value (.int (-3))] = pure (.string "llo") ∧
      Rejoins "slice" (.string "hello") (.int (-3)) ∧
      callMethod (.string "hello") "substring" [.value (.int (-3)), .value (.string "x")] =
        callMethod (.string "hello") "substring" [.value (.string "x"), .value (.int (-3))] := by
  have number : Json.int (-3) ≠ .null := nofun
  have word : Json.string "x" ≠ .null := nofun
  have facts := cuts_within "hello" []
  exact ⟨number, word, rfl, (facts.2.1 _ number).1, facts.2.2 _ _ number word⟩

end Formulary.Script
