import Formulary.Template.Reference

/-!
# Where a text refers to a field

`Mentions s name` says it without cutting anything: the mark of a field reference stands somewhere
in `s`, and `name` is the whole run of field characters after it.

* `mem_referencedFields`: the fields found by cutting a text at its references are exactly those it
  mentions.
-/

namespace Formulary.Template

/-- The mark of a reference stands in the text, with `name` as all that follows it of field
characters. -/
def Mentions (s name : List Char) : Prop :=
  ∃ before after, s = before ++ '$' :: '$' :: '.' :: (name ++ after) ∧ name ≠ [] ∧
    (∀ c ∈ name, isFieldChar c = true) ∧ ∀ c ∈ after.head?, isFieldChar c = false

/-! ## The reference at the front -/

theorem takeWhile_fieldChars {name after : List Char}
    (inside : ∀ c ∈ name, isFieldChar c = true)
    (outside : ∀ c ∈ after.head?, isFieldChar c = false) :
    (name ++ after).takeWhile isFieldChar = name ∧
      (name ++ after).dropWhile isFieldChar = after := by
  rw [List.takeWhile_append_of_pos inside, List.dropWhile_append_of_pos inside]
  cases after with
  | nil => exact ⟨List.append_nil name, rfl⟩
  | cons c after =>
    have stops : isFieldChar c = false := outside c rfl
    simp [stops]

/-- The reference at the front of a text takes the mark and a longest run of field characters. -/
theorem fieldAt?_eq_some_iff {s name rest : List Char} :
    fieldAt? s = some (name, rest) ↔
      s = '$' :: '$' :: '.' :: (name ++ rest) ∧ name ≠ [] ∧
        (∀ c ∈ name, isFieldChar c = true) ∧ ∀ c ∈ rest.head?, isFieldChar c = false := by
  constructor
  · intro h
    unfold fieldAt? at h
    split at h
    · rename_i s
      split at h
      · cases h
      · rename_i nonempty
        cases h
        refine ⟨by rw [List.takeWhile_append_dropWhile], by simpa using nonempty,
          List.all_eq_true.1 List.all_takeWhile, fun c first => ?_⟩
        have stops := List.head?_dropWhile_not isFieldChar s
        rw [Option.mem_def.1 first] at stops
        simpa using stops
    · cases h
  · intro facts
    obtain ⟨rfl, nonempty, inside, outside⟩ := facts
    rcases takeWhile_fieldChars inside outside with ⟨taken, dropped⟩
    simp [fieldAt?, taken, dropped, nonempty]

/-- A text that does not start with the mark has no reference at the front. -/
theorem fieldAt?_eq_none_of_ne {c : Char} (s : List Char) (h : c ≠ '$') :
    fieldAt? (c :: s) = none := by
  unfold fieldAt?
  split
  · rename_i shape
    cases shape
    exact absurd rfl h
  · rfl

theorem isFieldChar_ne_mark {c : Char} (h : isFieldChar c = true) : c ≠ '$' := by
  rintro rfl
  revert h
  decide

/-! ## References further on -/

theorem not_mentions_nil (name : List Char) : ¬ Mentions [] name := by
  intro facts
  obtain ⟨before, after, shape, -⟩ := facts
  cases before <;> cases shape

/-- A text mentions a field at its front or in what follows its first character. -/
theorem mentions_cons {c : Char} {s name : List Char} :
    Mentions (c :: s) name ↔ (∃ rest, fieldAt? (c :: s) = some (name, rest)) ∨ Mentions s name := by
  constructor
  · intro facts
    obtain ⟨before, after, shape, named⟩ := facts
    cases before with
    | nil => exact Or.inl ⟨after, fieldAt?_eq_some_iff.2 ⟨shape, named⟩⟩
    | cons d before =>
      rw [List.cons_append, List.cons.injEq] at shape
      exact Or.inr ⟨before, after, shape.2, named⟩
  · rintro (⟨rest, front⟩ | ⟨before, after, rfl, named⟩)
    · rcases fieldAt?_eq_some_iff.1 front with ⟨shape, named⟩
      exact ⟨[], rest, shape, named⟩
    · exact ⟨c :: before, after, rfl, named⟩

theorem mentions_cons_of_none {c : Char} {s name : List Char} (h : fieldAt? (c :: s) = none) :
    Mentions (c :: s) name ↔ Mentions s name := by
  rw [mentions_cons, h]
  simp

/-- No reference starts inside a name. -/
theorem mentions_append_fieldChars {run s name : List Char}
    (inside : ∀ c ∈ run, isFieldChar c = true) :
    Mentions (run ++ s) name ↔ Mentions s name := by
  induction run with
  | nil => exact Iff.rfl
  | cons c run ih =>
    have front := fieldAt?_eq_none_of_ne (run ++ s)
      (isFieldChar_ne_mark (inside c List.mem_cons_self))
    rw [List.cons_append, mentions_cons_of_none front]
    exact ih fun d member => inside d (List.mem_cons_of_mem c member)

/-- Behind a reference at the front, a text mentions what its rest mentions. -/
theorem mentions_of_fieldAt? {s found rest name : List Char}
    (h : fieldAt? s = some (found, rest)) :
    Mentions s name ↔ name = found ∨ Mentions rest name := by
  rcases fieldAt?_eq_some_iff.1 h with ⟨shape, -, inside, -⟩
  subst shape
  have second : fieldAt? ('$' :: '.' :: (found ++ rest)) = none := by simp [fieldAt?]
  have third : fieldAt? ('.' :: (found ++ rest)) = none := fieldAt?_eq_none_of_ne _ (by decide)
  rw [mentions_cons, h, mentions_cons_of_none second, mentions_cons_of_none third,
    mentions_append_fieldChars inside]
  simp [eq_comm]

/-! ## Cutting -/

theorem names_flush (text : List Char) (cuts : List Cut) :
    names (Cut.flush text cuts) = names cuts := by
  unfold Cut.flush
  split <;> simp [names]

theorem mem_names_fieldCutsFrom (text : List Char) {s name : List Char} :
    name ∈ names (fieldCutsFrom text s) ↔ Mentions s name := by
  fun_induction fieldCutsFrom text s with
  | case1 text s found rest h shorter ih =>
    rw [names_flush, mentions_of_fieldAt? h, ← ih]
    simp [names]
  | case2 text h =>
    rw [names_flush]
    exact iff_of_false (by simp [names]) (not_mentions_nil name)
  | case3 text c s h ih => rw [ih, mentions_cons_of_none h]

/-- Cutting a text at its references finds each field that the text mentions, and no other. -/
theorem mem_referencedFields {s : List Char} {id : String} :
    id ∈ referencedFields s ↔ Mentions s id.toList := by
  rw [referencedFields, List.mem_eraseDups, List.mem_map, ← mem_names_fieldCutsFrom []]
  constructor
  · intro facts
    obtain ⟨name, member, rfl⟩ := facts
    rwa [String.toList_ofList]
  · intro member
    exact ⟨id.toList, member, String.ofList_toList⟩

end Formulary.Template
