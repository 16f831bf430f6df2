import Formulary.Proofs.Contributions
import Formulary.Proofs.Touched

/-!
# Giving a dropdown one of its options

A dropdown takes one of its options as it is, and its options stay. Beyond that only its visibility
is decided anew (`outcome_refresh_option`). The wave that follows does not come back to it, so this
is how the dropdown is left (`Fits.state?_editField_option`), and what hides it reads the same after
as before (`Fits.hiddenBy_editField`).
-/

namespace Formulary.Form

open Template (Property)

variable {f f' : Field} {raw : String}

/-! ## Options -/

/-- The options of a dropdown are those of its definition and what was contributed to them. -/
theorem Session.lasts_sound (form : Definition) : Lasts form fun f state =>
    f.kind.isDropdown = true → ∃ values, OptionSet.Sound values state.options where
  created := by
    intro f _ _
    unfold FieldState.created
    dsimp only
    split
    · exact ⟨_, OptionSet.sound_fixed _⟩
    · exact ⟨[], OptionSet.sound_fixed []⟩
  refreshed := by
    intro f _ s change state sound dropdown
    obtain ⟨values, sound⟩ := sound dropdown
    have offered : OptionSet.Sound values (s.offered f change state) := by
      unfold Surroundings.offered
      split
      · unfold Surroundings.newOptions
        split
        · exact sound.perform (.merge (s.optionSource f change) _)
        · exact sound
      · exact sound
    refine ⟨values, ?_⟩
    cases proposed : s.proposed f change { state with options := s.offered f change state } with
    | none =>
      rw [(Surroundings.kept_of_not_proposed proposed).2]
      exact offered
    | some v =>
      obtain ⟨taken, -, -, options⟩ := Surroundings.taken_of_proposed dropdown proposed
      rw [options]
      exact offered.perform (.inject (Surroundings.valueSource f change) _)
  marked := fun _ _ _ sound => sound

/-! ## Computing the dropdown -/

section Skipping

variable {α β : Type} {i : String} {m : RefreshM α} {k : α → RefreshM β}

/-- A part that leaves the state and says nothing counts for what it answers. -/
theorem outcome_skip {state : FieldState} {a : α} (skips : outcome m state = ⟨a, state, []⟩)
    (later : ∀ a, About i (k a)) : outcome (m >>= k) state = outcome (k a) state := by
  rw [outcome_bind m later, skips]
  rfl

end Skipping

namespace Surroundings

variable {s : Surroundings} {state : FieldState}

theorem outcome_refreshOptions_user :
    outcome (s.refreshOptions f (.user raw)) state = ⟨(), state, []⟩ := by
  unfold refreshOptions
  split <;> rfl

theorem outcome_refreshLimit_user (name : PropertyName) (limit : Option (Property Binary64))
    (set : Binary64 → Limits → Limits) :
    outcome (s.refreshLimit f (.user raw) name limit set) state = ⟨(), state, []⟩ := by
  cases limit <;> rfl

theorem outcome_refreshLimits_user :
    outcome (s.refreshLimits f (.user raw)) state = ⟨(), state, []⟩ := by
  unfold refreshLimits
  split
  · rw [outcome_skip (i := f.id) (outcome_refreshLimit_user ..),
      outcome_skip (i := f.id) (outcome_refreshLimit_user ..), outcome_refreshLimit_user]
    · exact fun _ => about_refreshLimit _ _ _
    · exact fun _ => (about_refreshLimit _ _ _).bind fun _ => about_refreshLimit _ _ _
  · rfl

theorem outcome_refreshPlaceholder_user :
    outcome (s.refreshPlaceholder f (.user raw)) state = ⟨(), state, []⟩ := by
  unfold refreshPlaceholder
  split <;> rfl

theorem outcome_refreshDescription_user :
    outcome (s.refreshDescription f (.user raw)) state = ⟨(), state, []⟩ := by
  unfold refreshDescription
  split <;> rfl

/-- An edit decides on the visibility. -/
theorem outcome_refreshVisibility_user :
    outcome (s.refreshVisibility f (.user raw)) state =
      ⟨(), { state with
          hidden := s.hides f state
          required := f.required && !s.hides f state },
        [.visible f.id !s.hides f state]⟩ := by
  show outcome (do
    let hidden ← s.isHidden f
    setOwn { ← own with hidden := hidden, required := f.required && !hidden }
    tell (.visible f.id !hidden)) state = _
  rw [reads_isHidden.outcome_bind (i := f.id)]
  · rfl
  · have shown (visible : Bool) : About f.id (tell (.visible f.id visible)) := about_tell rfl
    exact fun _ => reads_own.about.bind fun _ => (about_setOwn _).bind fun _ => shown _

/-- A value that is among the options is stored, and nothing else. -/
theorem outcome_refreshValue_option (dropdown : f.kind.isDropdown = true)
    (filled : raw.isEmpty = false) (among : raw ∈ state.options.values) :
    outcome (s.refreshValue f (.user raw)) state =
      ⟨(), { state with value := raw }, [.value f.id raw]⟩ := by
  have proposed : s.proposed f (.user raw) state = some (.string raw) := by
    rw [Surroundings.proposed, filled]
    rfl
  have known (mark : Provenance) : state.options.inject mark raw = (state.options, false) := by
    rw [OptionSet.inject_eq, if_pos (Or.inr among)]
  rw [outcome_refreshValue, proposed]
  dsimp only
  rw [coerce_dropdown dropdown filled]
  dsimp only
  rw [outcome_store_of_dropdown dropdown, filled]
  dsimp only
  rw [if_neg Bool.false_ne_true, known]
  rfl

/-- The state of a dropdown that was given a value. -/
def picked (s : Surroundings) (f : Field) (raw : String) (state : FieldState) : FieldState :=
  { state with
    value := raw
    hidden := s.hides f { state with value := raw }
    required := f.required && !s.hides f { state with value := raw } }

/-- **A dropdown takes one of its options**: the value is stored, and the visibility decided. -/
theorem outcome_refresh_option (dropdown : f.kind.isDropdown = true)
    (filled : raw.isEmpty = false) (among : raw ∈ state.options.values) :
    outcome (s.refresh f (.user raw)) state = ⟨(), s.picked f raw state,
      [.value f.id raw, .visible f.id !(s.picked f raw state).hidden]⟩ := by
  have texts : About f.id (do
      s.refreshDescription f (.user raw)
      s.refreshVisibility f (.user raw)) :=
    about_refreshDescription.bind fun _ => about_refreshVisibility
  have later : About f.id (do
      s.refreshPlaceholder f (.user raw)
      s.refreshDescription f (.user raw)
      s.refreshVisibility f (.user raw)) :=
    about_refreshPlaceholder.bind fun _ => texts
  unfold refresh
  rw [outcome_skip outcome_refreshOptions_user fun _ =>
      about_refreshLimits.bind fun _ => about_refreshValue.bind fun _ => later,
    outcome_skip outcome_refreshLimits_user fun _ => about_refreshValue.bind fun _ => later,
    outcome_bind _ fun _ => later, outcome_refreshValue_option dropdown filled among]
  dsimp only
  rw [outcome_skip outcome_refreshPlaceholder_user fun _ => texts,
    outcome_skip outcome_refreshDescription_user fun _ => about_refreshVisibility,
    outcome_refreshVisibility_user]
  rfl

end Surroundings

/-! ## The wave of the dropdown -/

theorem Kind.isContinuous_of_dropdown {kind : Kind} (dropdown : kind.isDropdown = true) :
    kind.isContinuous = false := by
  cases kind with
  | dropdown options => rfl
  | _ => cases dropdown

namespace Session

variable {s : Session} {form : Definition} {g : Graph} {env : Environment} {state : FieldState}
  {store : DocumentStore} {now : Calendar.Instant}

theorem editField_of_dropdown (dropdown : f.kind.isDropdown = true) :
    s.editField env f raw = (s.refresh env f (.user raw)).propagate env f.id := by
  unfold editField
  dsimp only
  rw [Kind.isContinuous_of_dropdown dropdown, if_neg Bool.false_ne_true]

/-- An edit of a dropdown leaves what waits. -/
theorem schedule_editField_of_dropdown (dropdown : f.kind.isDropdown = true) :
    (s.editField env f raw).schedule = s.schedule := by
  rw [editField_of_dropdown dropdown, propagate, schedule_spread]
  rfl

/-- The wave of a field does not come back to it. -/
theorem Fits.not_mem_wave_self (fits : s.Fits form g) (h : g.Represents form) :
    f.id ∉ ((s.refresh env f (.user raw)).graph.wave f.id).flatten := by
  rw [graph_refresh, fits.ofGraph, h.mem_flatten_wave_iff]
  exact h.acyclic f.id

/-- **What an option leaves of the dropdown**, once its wave is over. -/
theorem Fits.state?_editField_option (fits : s.Fits form g) (h : g.Represents form)
    (dropdown : f.kind.isDropdown = true) (found : s.state? f.id = some state)
    (filled : raw.isEmpty = false) (among : raw ∈ state.options.values) :
    (s.editField env f raw).state? f.id = some ((s.surroundings env).picked f raw state) := by
  rw [editField_of_dropdown dropdown, (leaves_propagate (fits.not_mem_wave_self h)).state,
    state?_refresh_self found, Surroundings.outcome_refresh_option dropdown filled among]

/-- Fields that a property of the dropdown refers to keep their values. -/
theorem Fits.value?_editField_of_refers (fits : s.Fits form g) (h : g.Represents form)
    (member : f ∈ form.fields) (dropdown : f.kind.isDropdown = true) {name : PropertyName}
    {i : String} (refers : form.Refers name i f) :
    (s.editField env f raw).value? i = s.value? i := by
  have apart : i ∉ ((s.refresh env f (.user raw)).graph.wave f.id).flatten := by
    rw [graph_refresh, fits.ofGraph, h.mem_flatten_wave_iff]
    exact fun path => h.not_reaches_self member ⟨i, refers, path.to_reflTransGen⟩
  rw [editField_of_dropdown dropdown, value?, (leaves_propagate apart).state,
    state?_refresh_of_ne refers.1]
  rfl

/-- **What hides a dropdown reads the same after an edit of it**, unless it reads the dropdown. -/
theorem Fits.hiddenBy_editField (fits : s.Fits form g) (h : g.Represents form)
    (member : f ∈ form.fields) (dropdown : f.kind.isDropdown = true)
    (foreign : ∀ source, f.hide = some source → ¬ Template.Mentions source.toList f.id.toList) :
    f.hiddenBy ((s.editField env f raw).reads store now) = f.hiddenBy (s.reads store now) := by
  refine f.hiddenBy_congr fun source given => ?_
  refine Template.valueOfText_congr now store fun i mentioned => ?_
  have differs : i ≠ f.id := by
    intro same
    rw [same] at mentioned
    exact foreign source given mentioned
  by_cases inside : i ∈ form.ids
  · exact fits.value?_editField_of_refers h member dropdown
      ⟨differs, inside, source, given, mentioned⟩
  · have fits' : (s.editField env f raw).Fits form g := by
      rw [editField_of_dropdown dropdown]
      exact fits.refresh.spread _
    rw [fits.value?_of_not_mem inside, fits'.value?_of_not_mem inside]

/-- Whether the dropdown is hidden then, by what its expression reads. -/
theorem Fits.hidden_picked (fits : s.Fits form g) (h : g.Represents form)
    (member : f ∈ form.fields)
    (foreign : ∀ source, f.hide = some source → ¬ Template.Mentions source.toList f.id.toList) :
    ((s.surroundings env).picked f raw state).hidden =
      f.hiddenBy (s.reads env.store env.now) := by
  have reads : (s.surroundings env).ReadsAs f .hide (s.reads env.store env.now) :=
    fits.readsAs h env member foreign
  exact reads.hides _

end Session

end Formulary.Form
