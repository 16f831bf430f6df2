import Formulary.Proofs.States

/-!
# What is told of a value

A computation of a field tells of its options if it computes them, then of its value if it takes
one, and of texts and visibility after that. So it tells of a value once at most, and of none if the
change proposes none.
-/

namespace Formulary.Form

open Template (Property)

/-- An update of the value or of the options. -/
def Update.isChoice : Update → Bool
  | .value .. | .options .. => true
  | _ => false

namespace Surroundings

variable {s : Surroundings} {f : Field} {change : Change}

/-- Options that are computed are told; others stay. -/
theorem said_refreshOptions (s : Surroundings) (f : Field) (change : Change) (state : FieldState) :
    (outcome (s.refreshOptions f change) state).said = [] ∧
        s.offered f change state = state.options ∨
      (outcome (s.refreshOptions f change) state).said =
        [.options f.id (s.offered f change state).values] := by
  unfold refreshOptions
  split
  · rename_i source kind
    cases needed : s.needs f .options change with
    | false => exact Or.inl ⟨rfl, offered_of_not_needs needed state⟩
    | true =>
      refine Or.inr ?_
      rw [offered_of_expression kind, newOptions, needed, if_pos rfl, if_pos rfl,
        (reads_evaluateText .options source).outcome_bind (i := f.id)]
      · rfl
      · exact fun _ => reads_own.about.bind fun _ => (about_setOwn _).bind fun _ => about_tell rfl
  · rename_i other
    refine Or.inl ⟨rfl, ?_⟩
    unfold offered
    split
    · rename_i source kind
      exact absurd kind (other source)
    · rfl

theorem said_refreshLimit (name : PropertyName) (limit : Option (Property Binary64))
    (set : Binary64 → Limits → Limits) (state : FieldState) :
    (outcome (s.refreshLimit f change name limit set) state).said = [] := by
  unfold refreshLimit
  cases limit with
  | none => rfl
  | some limit =>
    dsimp only
    split
    · rw [(reads_evaluate name Json.float limit).outcome_bind (i := f.id)]
      · split <;> rfl
      · exact fun _ => (reads_own.about.bind fun _ => about_setOwn _).ite _ (reads_pure ()).about
    · rfl

theorem said_refreshLimits (state : FieldState) :
    (outcome (s.refreshLimits f change) state).said = [] := by
  unfold refreshLimits
  split
  · rw [outcome_bind (i := f.id), outcome_bind (i := f.id), said_refreshLimit, said_refreshLimit,
      said_refreshLimit]
    · rfl
    · exact fun _ => about_refreshLimit _ _ _
    · exact fun _ => (about_refreshLimit _ _ _).bind fun _ => about_refreshLimit _ _ _
  · rfl

/-- What is stored is told last. -/
theorem said_store (value : String) (state : FieldState) :
    ∃ lists, (∀ u ∈ lists, ∃ values, u = Update.options f.id values) ∧
      (outcome (store f change value) state).said =
        lists ++ [.value f.id (outcome (store f change value) state).own.value] := by
  cases dropdown : f.kind.isDropdown with
  | false =>
    refine ⟨[], by simp, ?_⟩
    unfold store
    rw [dropdown]
    rfl
  | true =>
    rw [outcome_store_of_dropdown dropdown]
    dsimp only
    generalize (if value.isEmpty then (state.options.first?).getD "" else value) = stored
    refine ⟨_, fun u member => ?_, rfl⟩
    split at member
    · exact ⟨_, List.mem_singleton.1 member⟩
    · cases member

theorem said_refreshValue (s : Surroundings) (f : Field) (change : Change) (state : FieldState) :
    (outcome (s.refreshValue f change) state).said = [] ∨
      (∃ v, s.proposed f change state = some v) ∧
        ∃ lists, (∀ u ∈ lists, ∃ values, u = Update.options f.id values) ∧
          (outcome (s.refreshValue f change) state).said =
            lists ++ [.value f.id (outcome (s.refreshValue f change) state).own.value] := by
  rw [outcome_refreshValue]
  cases s.proposed f change state with
  | none => exact Or.inl rfl
  | some candidate =>
    dsimp only
    cases coerce f.kind state.limits candidate with
    | ok value => exact Or.inr ⟨⟨candidate, rfl⟩, said_store value state⟩
    | error e => exact Or.inl rfl

/-! ## Texts and visibility -/

theorem choices_refreshPlaceholder (state : FieldState) :
    (outcome (s.refreshPlaceholder f change) state).said.filter Update.isChoice = [] := by
  unfold refreshPlaceholder
  split
  · rfl
  · rename_i raw _
    split
    · rw [(reads_evaluateText .placeholder raw).outcome_bind (i := f.id)]
      · rfl
      · have shown (text : String) : About f.id (tell (.placeholder f.id text)) := about_tell rfl
        exact fun _ => (shown _).bind fun _ => reads_own.about.bind fun _ => about_setOwn _
    · rfl

theorem choices_refreshDescription (state : FieldState) :
    (outcome (s.refreshDescription f change) state).said.filter Update.isChoice = [] := by
  unfold refreshDescription
  split
  · rfl
  · rename_i raw _
    split
    · rw [(reads_evaluateText .description raw).outcome_bind (i := f.id)]
      · rfl
      · have shown (text : String) : About f.id (tell (.description f.id text)) := about_tell rfl
        exact fun _ => (shown _).bind fun _ => reads_own.about.bind fun _ => about_setOwn _
    · rfl

theorem choices_refreshVisibility (state : FieldState) :
    (outcome (s.refreshVisibility f change) state).said.filter Update.isChoice = [] := by
  show ((outcome (if change.isEdit || s.needs f .hide change then do
      let hidden ← s.isHidden f
      setOwn { ← own with hidden := hidden, required := f.required && !hidden }
      tell (.visible f.id !hidden)
    else pure ()) state).said.filter Update.isChoice) = []
  split
  · rw [reads_isHidden.outcome_bind (i := f.id)]
    · rfl
    · have shown (visible : Bool) : About f.id (tell (.visible f.id visible)) := about_tell rfl
      exact fun _ => reads_own.about.bind fun _ => (about_setOwn _).bind fun _ => shown _
  · rfl

/-! ## All properties -/

/-- **What is told of options and value**: the options that the change offers, and then what is
stored. -/
theorem choices_refresh (state : FieldState) :
    (outcome (s.refresh f change) state).said.filter Update.isChoice =
      ((outcome (s.refreshOptions f change) state).said ++
        (outcome (s.refreshValue f change) (s.valuing f change state)).said).filter
          Update.isChoice := by
  have texts : About f.id (do s.refreshDescription f change; s.refreshVisibility f change) :=
    about_refreshDescription.bind fun _ => about_refreshVisibility
  have later : About f.id (do
      s.refreshPlaceholder f change
      s.refreshDescription f change
      s.refreshVisibility f change) :=
    about_refreshPlaceholder.bind fun _ => texts
  have value : About f.id (do
      s.refreshValue f change
      s.refreshPlaceholder f change
      s.refreshDescription f change
      s.refreshVisibility f change) :=
    about_refreshValue.bind fun _ => later
  have valuing := own_refreshLimits_offered s f change state
  unfold refresh
  rw [outcome_bind _ fun _ => about_refreshLimits.bind fun _ => value,
    outcome_bind _ fun _ => value, outcome_bind _ fun _ => later, outcome_bind _ fun _ => texts,
    outcome_bind _ fun _ => about_refreshVisibility]
  dsimp only
  rw [valuing, said_refreshLimits, List.nil_append]
  simp only [List.filter_append, choices_refreshPlaceholder, choices_refreshDescription,
    choices_refreshVisibility, List.append_nil]

/-- **A value is told once at most**, after all options. -/
theorem value_told_last (s : Surroundings) (f : Field) (change : Change) (state : FieldState) :
    ∃ lists, (∀ u ∈ lists, ∃ values, u = Update.options f.id values) ∧
      ((outcome (s.refresh f change) state).said.filter Update.isChoice = lists ∨
        (outcome (s.refresh f change) state).said.filter Update.isChoice =
          lists ++ [.value f.id (outcome (s.refresh f change) state).own.value]) := by
  have choices {lists : List Update}
      (only : ∀ u ∈ lists, ∃ values, u = Update.options f.id values) :
      lists.filter Update.isChoice = lists := by
    refine List.filter_eq_self.2 fun u among => ?_
    obtain ⟨values, rfl⟩ := only u among
    rfl
  have first : ∀ u ∈ (outcome (s.refreshOptions f change) state).said,
      ∃ values, u = Update.options f.id values := by
    rcases said_refreshOptions s f change state with ⟨none, -⟩ | one
    · rw [none]
      simp
    · rw [one]
      exact fun u member => ⟨_, List.mem_singleton.1 member⟩
  rw [choices_refresh, List.filter_append, choices first]
  rcases said_refreshValue s f change (s.valuing f change state) with none | ⟨-, lists, only, one⟩
  · refine ⟨_, first, Or.inl ?_⟩
    rw [none]
    exact List.append_nil _
  · refine ⟨(outcome (s.refreshOptions f change) state).said ++ lists,
      fun u member => (List.mem_append.1 member).elim (first u) (only u), Or.inr ?_⟩
    rw [one, (own_refresh_valuing s f change state).1, List.filter_append, choices only,
      List.append_assoc]
    rfl

/-- What proposes no value tells of the options that it offers. -/
theorem choices_of_not_proposed {state : FieldState}
    (none : s.proposed f change { state with options := s.offered f change state } = none) :
    (outcome (s.refresh f change) state).said.filter Update.isChoice =
      (outcome (s.refreshOptions f change) state).said := by
  rw [choices_refresh, List.filter_append, outcome_refreshValue, proposed_valuing, none]
  rcases said_refreshOptions s f change state with ⟨none, -⟩ | one
  · rw [none]
    rfl
  · rw [one]
    rfl

end Surroundings

end Formulary.Form
