import Formulary.Form.Options
import Mathlib.Data.List.Nodup

/-!
# What options a dropdown has after any history

Options come from a definition, and then sources contribute to them: a list of values at a time
(`merge`), or one value (`inject`). Each contribution takes the place of the one before it of the
same mark, and nothing is offered twice, so what it may add depends on what all other marks have
added by then.

* `entries_merge`, `inject_eq`: what one contribution leaves, and what it adds.
* `Sound.perform`: what every contribution keeps up.
* `contributions_laws`: both, after any history.
-/

namespace Formulary.Form.OptionSet

/-- The values that are not empty, each where it first comes up. -/
def distinct (values : List String) : List String :=
  (values.filter fun v => !v.isEmpty).eraseDups

/-- The entries of all marks but one. -/
def others (o : OptionSet) (mark : Provenance) : List Entry :=
  o.entries.filter fun e => decide (e.mark ≠ some mark)

/-- What a source does to the options. -/
inductive Contribution where
  | merge (source : String) (values : List String)
  | inject (source value : String)

/-- The options after a contribution. -/
def perform (o : OptionSet) : Contribution → OptionSet
  | .merge source values => o.merge ⟨source, .options⟩ values
  | .inject source value => (o.inject ⟨source, .value⟩ value).1

/-- What the options of a definition keep through all contributions. -/
structure Sound (values : List String) (o : OptionSet) : Prop where
  filled : "" ∉ o.values
  once : o.values.Nodup
  /-- The options of the definition stand in front, and all others have a mark. -/
  front : ∃ marked, o.entries = (distinct values).map (fun v => ⟨v, none⟩) ++ marked ∧
    ∀ e ∈ marked, e.mark ≠ none
  single : ∀ source, o.entries.countP (fun e => decide (e.mark = some ⟨source, .value⟩)) ≤ 1

variable {o : OptionSet} {mark : Provenance} {values : List String} {value : String}

/-! ## Distinct values -/

theorem mem_distinct_iff : value ∈ distinct values ↔ value ∈ values ∧ value ≠ "" := by
  rw [distinct, List.mem_eraseDups, List.mem_filter]
  simp

/-- The values that are left to search are fewer, as the first one is taken out of them. -/
theorem nodup_eraseDups (values : List String) : values.eraseDups.Nodup := by
  cases values with
  | nil => exact .nil
  | cons value values =>
    rw [List.eraseDups_cons, List.nodup_cons]
    refine ⟨?_, nodup_eraseDups _⟩
    rw [List.mem_eraseDups, List.mem_filter]
    simp
termination_by values.length
decreasing_by
  have fewer := List.length_filter_le (fun v => !v == value) values
  rw [List.length_cons]
  omega

theorem nodup_distinct (values : List String) : (distinct values).Nodup :=
  nodup_eraseDups _

/-- A value that is not empty comes first, and is left out of what follows. -/
theorem distinct_cons (filled : value ≠ "") (values : List String) :
    distinct (value :: values) = value :: distinct (values.filter fun v => !v == value) := by
  have keep : value.isEmpty = false := by simpa using filled
  have first : (value :: values).filter (fun v => !v.isEmpty) =
      value :: values.filter fun v => !v.isEmpty := by
    simp [keep]
  rw [distinct, distinct, first, List.eraseDups_cons, List.filter_filter, List.filter_filter]
  simp only [Bool.and_comm]

/-! ## One contribution -/

theorem contains_iff : o.contains value = true ↔ value ∈ o.values := List.contains_iff_mem

/-- Pushing values adds those that are new, each once. -/
theorem entries_foldl_push (mark : Option Provenance) (values : List String) (o : OptionSet) :
    (values.foldl (·.push mark) o).entries = o.entries ++
      (distinct (values.filter fun v => decide (v ∉ o.values))).map fun v => ⟨v, mark⟩ := by
  induction values generalizing o with
  | nil => simp [distinct]
  | cons value values ih =>
    rw [List.foldl_cons, ih]
    by_cases known : value ∈ o.values
    · have same : o.push mark value = o := by simp [push, contains_iff.2 known]
      rw [same, List.filter_cons_of_neg (by simpa using known)]
    · by_cases empty : value = ""
      · have same : o.push mark value = o := by simp [push, empty]
        rw [same, List.filter_cons_of_pos (by simpa using known)]
        simp [distinct, empty]
      · have absent : o.contains value = false := by simpa [contains] using known
        have pushed : o.push mark value = ⟨o.entries ++ [⟨value, mark⟩]⟩ := by
          simp [push, empty, absent]
        have values_pushed : (o.push mark value).values = o.values ++ [value] := by
          simp [pushed, OptionSet.values]
        rw [values_pushed, pushed, List.filter_cons_of_pos (by simpa using known),
          distinct_cons empty, List.filter_filter]
        simp [not_or, and_comm, Bool.beq_eq_decide_eq]

theorem entries_drop (o : OptionSet) (mark : Provenance) :
    (o.drop mark).entries = o.others mark := by
  refine List.filter_congr fun e _ => ?_
  rw [bne, Bool.beq_eq_decide_eq, decide_not]

/-- **Merging leaves the entries of other marks and puts behind them, under its own mark, each value
that is not empty and not among them.** -/
theorem entries_merge (o : OptionSet) (mark : Provenance) (values : List String) :
    (o.merge mark values).entries = o.others mark ++
      (distinct (values.filter fun v => decide (v ∉ (o.others mark).map Entry.value))).map
        fun v => ⟨v, some mark⟩ := by
  rw [merge, entries_foldl_push, OptionSet.values, entries_drop]

theorem others_append_marked (o : OptionSet) (mark : Provenance) (values : List String) :
    others ⟨o.others mark ++ values.map fun v => ⟨v, some mark⟩⟩ mark = o.others mark := by
  simp [others]

/-- Merging the same values again changes nothing. -/
theorem merge_merge (o : OptionSet) (mark : Provenance) (values : List String) :
    (o.merge mark values).merge mark values = o.merge mark values := by
  have kept : (o.merge mark values).others mark = o.others mark := by
    rw [← others_append_marked o mark, ← entries_merge]
  have same :
      ((o.merge mark values).merge mark values).entries = (o.merge mark values).entries := by
    rw [entries_merge, kept, ← entries_merge]
  exact congrArg OptionSet.mk same

/-- **Injecting takes in a value that is new**, in place of what its mark had added. -/
theorem inject_eq (o : OptionSet) (mark : Provenance) (value : String) :
    o.inject mark value =
      if value = "" ∨ value ∈ o.values then (o, false)
      else (⟨o.others mark ++ [⟨value, some mark⟩]⟩, true) := by
  by_cases empty : value = ""
  · simp [inject, empty]
  · by_cases known : value ∈ o.values
    · simp [inject, contains_iff.2 known, known]
    · have absent : o.contains value = false := by simpa [contains] using known
      have dropped : (o.drop mark).contains value = false := by
        have sublist : (o.drop mark).entries.Sublist o.entries := List.filter_sublist
        refine Bool.eq_false_iff.2 fun there => known ?_
        exact (sublist.map Entry.value).subset (contains_iff.1 there)
      simp [inject, push, empty, known, absent, dropped, entries_drop]

/-! ## All contributions -/

theorem sound_fixed (values : List String) : Sound values (fixed values) := by
  have entries : (fixed values).entries = (distinct values).map fun v => ⟨v, none⟩ := by
    rw [fixed, entries_foldl_push]
    simp [OptionSet.values]
  have same : (fixed values).values = distinct values := by
    simp [OptionSet.values, entries, Function.comp_def]
  refine ⟨?_, ?_, ⟨[], by rw [entries, List.append_nil], fun _ none => by cases none⟩, ?_⟩
  · rw [same]
    exact fun among => (mem_distinct_iff.1 among).2 rfl
  · rw [same]
    exact nodup_distinct values
  · intro source
    rw [entries, List.countP_eq_zero.2]
    · exact Nat.zero_le 1
    · simp

/-- Taking out the entries of a mark keeps the options sound. -/
theorem Sound.others (sound : Sound values o) (mark : Provenance) :
    Sound values ⟨o.others mark⟩ := by
  have sublist : (o.others mark).Sublist o.entries := List.filter_sublist
  obtain ⟨marked, shape, each⟩ := sound.front
  refine ⟨fun among => sound.filled ((sublist.map Entry.value).subset among),
    sound.once.sublist (sublist.map Entry.value), ⟨marked.filter (·.mark ≠ some mark), ?_, ?_⟩,
    fun source => Nat.le_trans sublist.countP_le (sound.single source)⟩
  · show List.filter _ o.entries = _
    rw [shape, List.filter_append, List.filter_eq_self.2 (by simp)]
  · exact fun e among => each e (List.mem_of_mem_filter among)

/-- Sound options stay so with new values of a mark behind them: any number under the mark of an
expression, but only one under the mark of a value. -/
theorem Sound.append (sound : Sound values o) (news : List String) (filled : "" ∉ news)
    (once : news.Nodup) (fresh : ∀ v ∈ news, v ∉ o.values)
    (single : mark.origin = .value →
      o.entries.countP (fun e => decide (e.mark = some mark)) + news.length ≤ 1) :
    Sound values ⟨o.entries ++ news.map fun v => ⟨v, some mark⟩⟩ := by
  have same : OptionSet.values ⟨o.entries ++ news.map fun v => ⟨v, some mark⟩⟩ =
      o.values ++ news := by
    simp [OptionSet.values, Function.comp_def]
  obtain ⟨marked, shape, each⟩ := sound.front
  refine ⟨?_, ?_, ⟨marked ++ news.map fun v => ⟨v, some mark⟩, ?_, ?_⟩, fun source => ?_⟩
  · rw [same, List.mem_append, not_or]
    exact ⟨sound.filled, filled⟩
  · rw [same]
    exact sound.once.append once (List.disjoint_right.2 fresh)
  · rw [shape, List.append_assoc]
  · intro e among
    rcases List.mem_append.1 among with old | new
    · exact each e old
    · obtain ⟨v, -, rfl⟩ := List.mem_map.1 new
      exact Option.some_ne_none mark
  · have before := sound.single source
    rw [List.countP_append, List.countP_map]
    by_cases own : mark = ⟨source, .value⟩
    · subst own
      simpa [Function.comp_def] using single rfl
    · simpa [Function.comp_def, own] using before

/-- **Every contribution keeps the options sound.** -/
theorem Sound.perform (sound : Sound values o) (c : Contribution) :
    Sound values (o.perform c) := by
  cases c with
  | merge source news =>
    have merged : o.perform (.merge source news) = ⟨_⟩ :=
      congrArg OptionSet.mk (entries_merge o ⟨source, .options⟩ news)
    rw [merged]
    refine (sound.others _).append _ (fun among => (mem_distinct_iff.1 among).2 rfl)
      (nodup_distinct _) (fun v among => ?_) (fun other => by cases other)
    exact of_decide_eq_true (List.mem_filter.1 (mem_distinct_iff.1 among).1).2
  | inject source value =>
    show Sound values (o.inject ⟨source, .value⟩ value).1
    rw [inject_eq]
    split
    · exact sound
    · rename_i new
      obtain ⟨filled, fresh⟩ := not_or.1 new
      have sublist : (o.others ⟨source, .value⟩).Sublist o.entries := List.filter_sublist
      have single : (o.others ⟨source, .value⟩).countP
          (fun e => decide (e.mark = some ⟨source, .value⟩)) = 0 := by
        simp [OptionSet.others, List.countP_eq_zero]
      refine (sound.others ⟨source, .value⟩).append [value] ?_ (List.nodup_singleton _) ?_ ?_
      · simpa using Ne.symm filled
      · rintro v among inside
        rw [List.mem_singleton.1 among] at inside
        exact fresh ((sublist.map Entry.value).subset inside)
      · intro _
        exact Nat.le_of_eq (by rw [single]; rfl)

theorem sound_foldl (values : List String) (contributions : List Contribution) :
    Sound values (contributions.foldl perform (fixed values)) :=
  List.foldlRecOn contributions perform (sound_fixed values) fun _ sound c _ => sound.perform c

/-- **The laws of options**, after any contributions to those of a definition. They have no empty
value and none twice, those of the definition stand in front in their order, and of the injected
values there is one for each source. Merging leaves the entries of other marks in order and puts
what is new behind them, and merging again changes nothing. Injecting tells whether the value was
new, and only then changes anything. -/
theorem contributions_laws (values : List String) (contributions : List Contribution) :
    let o := contributions.foldl perform (fixed values)
    Sound values o ∧
    (∀ mark news,
      (o.merge mark news).entries = o.others mark ++
        (distinct (news.filter fun v => decide (v ∉ (o.others mark).map Entry.value))).map
          (fun v => ⟨v, some mark⟩) ∧
      (o.merge mark news).merge mark news = o.merge mark news) ∧
    ∀ mark value, o.inject mark value =
      if value = "" ∨ value ∈ o.values then (o, false)
      else (⟨o.others mark ++ [⟨value, some mark⟩]⟩, true) :=
  ⟨sound_foldl values contributions,
    fun mark news => ⟨entries_merge _ mark news, merge_merge _ mark news⟩,
    fun mark value => inject_eq _ mark value⟩

-- So the laws hold of options that start from nothing, too.
example : fixed [] = {} := rfl

end Formulary.Form.OptionSet
