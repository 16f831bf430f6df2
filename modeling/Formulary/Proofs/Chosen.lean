import Formulary.Proofs.Offered
import Formulary.Proofs.Told

/-!
# Dropdowns without a choice

A dropdown that takes an empty value takes the first of its options instead, so that it is left
without a choice only if it has no options. But it takes one only when its value is computed.
Options that are computed by themselves leave an empty value: it has dropped out of nothing. So a
dropdown without a choice has no options unless they were told of after its value (`OptionsLast`).
They are not if whatever has its options computed has its value computed too (`Definition.Fills`).

* `no_options_of_blank`: when a dropdown without a choice has no options, and when it goes on
  without one.
* `Fits.offersAll_run`: what it offers then.
-/

namespace Formulary.Form

open Relation (ReflTransGen)

variable {form : Definition} {g : Graph} {f f' : Field} {o source : String}

/-! ## The first option -/

namespace OptionSet

variable {options : OptionSet} {value : String} {values : List String}

theorem inject_empty (options : OptionSet) (mark : Provenance) :
    (options.inject mark "").1 = options := rfl

theorem not_mem_values_push (filled : "" ∉ options.values) (mark : Option Provenance)
    (value : String) : "" ∉ (options.push mark value).values := by
  unfold push
  split
  · exact filled
  · rename_i given
    intro among
    obtain ⟨e, inside, empty⟩ := List.mem_map.1 among
    rcases List.mem_append.1 inside with old | new
    · exact filled (List.mem_map.2 ⟨e, old, empty⟩)
    · rw [List.mem_singleton.1 new] at empty
      cases empty
      exact given rfl

theorem not_mem_values_foldl_push (filled : "" ∉ options.values) (mark : Option Provenance)
    (values : List String) : "" ∉ (values.foldl (·.push mark) options).values := by
  induction values generalizing options with
  | nil => exact filled
  | cons value values ih => exact ih (not_mem_values_push filled mark value)

theorem not_mem_values_drop (filled : "" ∉ options.values) (mark : Provenance) :
    "" ∉ (options.drop mark).values := by
  intro among
  obtain ⟨e, inside, empty⟩ := List.mem_map.1 among
  exact filled (List.mem_map.2 ⟨e, (mem_drop_iff.1 inside).1, empty⟩)

theorem not_mem_values_inject (filled : "" ∉ options.values) (mark : Provenance)
    (value : String) : "" ∉ (options.inject mark value).1.values := by
  unfold inject
  split
  · exact filled
  · exact not_mem_values_push (not_mem_values_drop filled mark) _ value

/-- Options of which none is empty have a first one, or there are none. -/
theorem entries_eq_nil_of_first? (filled : "" ∉ options.values)
    (first : (options.first?).getD "" = "") : options.entries = [] := by
  unfold first? values at *
  cases given : options.entries with
  | nil => rfl
  | cons e entries =>
    rw [given] at filled first
    exact absurd (List.mem_cons.2 (Or.inl first.symm)) filled

theorem mem_values_push_of_mem {mark : Option Provenance} {v : String}
    (among : v ∈ options.values) : v ∈ (options.push mark value).values := by
  obtain ⟨e, inside, rfl⟩ := List.mem_map.1 among
  exact List.mem_map_of_mem (mem_push_of_mem inside)

theorem mem_values_push_self (mark : Option Provenance) (filled : value ≠ "") :
    value ∈ (options.push mark value).values := by
  unfold push
  split
  · rename_i there
    rcases Bool.or_eq_true_iff.1 there with empty | there
    · exact absurd (String.isEmpty_iff.1 empty) filled
    · exact List.contains_iff_mem.1 there
  · exact List.mem_map.2 ⟨⟨value, mark⟩, List.mem_append_right _ List.mem_cons_self, rfl⟩

/-- Values that are merged in are among the options, but for an empty one. -/
theorem mem_values_merge (mark : Provenance) (listed : value ∈ values) (filled : value ≠ "") :
    value ∈ (options.merge mark values).values := by
  unfold merge
  generalize options.drop mark = start
  have kept (values : List String) {start : OptionSet} (there : value ∈ start.values) :
      value ∈ (values.foldl (·.push (some mark)) start).values := by
    induction values generalizing start with
    | nil => exact there
    | cons v values ih => exact ih (mem_values_push_of_mem there)
  induction values generalizing start with
  | nil => cases listed
  | cons v values ih =>
    rcases List.mem_cons.1 listed with rfl | later
    · exact kept values (mem_values_push_self _ filled)
    · exact ih later _

end OptionSet

/-- An empty value is for want of a first option. -/
def FieldState.Chosen (state : FieldState) : Prop :=
  state.value = "" → (state.options.first?).getD "" = ""

namespace Surroundings

variable {s : Surroundings} {change : Change} {state : FieldState}

/-- What is computed of a dropdown without a choice has left its options as the change offers
them. -/
theorem options_of_blank (dropdown : f.kind.isDropdown = true)
    (blank : (outcome (s.refresh f change) state).own.value = "") :
    (outcome (s.refresh f change) state).own.options = s.offered f change state := by
  cases proposed : s.proposed f change { state with options := s.offered f change state } with
  | none => exact (kept_of_not_proposed proposed).2
  | some v =>
    obtain ⟨taken, -, -, options⟩ := taken_of_proposed dropdown proposed
    rw [options, blank, OptionSet.inject_empty]

/-- **A dropdown for which a value is proposed** takes its first option for an empty one. -/
theorem chosen_of_proposed (dropdown : f.kind.isDropdown = true) {v : Json}
    (proposed : s.proposed f change { state with options := s.offered f change state } = some v) :
    (outcome (s.refresh f change) state).own.Chosen := by
  intro blank
  obtain ⟨taken, -, value, -⟩ := taken_of_proposed dropdown proposed
  rw [options_of_blank dropdown blank]
  rw [blank] at value
  split at value
  · exact value.symm
  · rename_i given
    exact absurd (String.isEmpty_iff.2 value.symm) given

/-- If the options are not computed none is left out that was not before. -/
theorem chosen_of_not_needs (dropdown : f.kind.isDropdown = true)
    (unneeded : s.needs f .options change = false) (chosen : state.Chosen) :
    (outcome (s.refresh f change) state).own.Chosen := by
  cases proposed : s.proposed f change { state with options := s.offered f change state } with
  | none =>
    obtain ⟨value, options⟩ := kept_of_not_proposed proposed
    unfold FieldState.Chosen
    rw [value, options, offered_of_not_needs unneeded]
    exact chosen
  | some v => exact chosen_of_proposed dropdown proposed

/-- No option of a dropdown is empty. -/
theorem not_mem_values_refresh (dropdown : f.kind.isDropdown = true)
    (filled : "" ∉ state.options.values) :
    "" ∉ (outcome (s.refresh f change) state).own.options.values := by
  have merged : "" ∉ (s.offered f change state).values := by
    unfold offered
    split
    · unfold newOptions
      split
      · exact OptionSet.not_mem_values_foldl_push (OptionSet.not_mem_values_drop filled _) _ _
      · exact filled
    · exact filled
  cases proposed : s.proposed f change { state with options := s.offered f change state } with
  | none =>
    rw [(kept_of_not_proposed proposed).2]
    exact merged
  | some v =>
    obtain ⟨taken, -, -, options⟩ := taken_of_proposed dropdown proposed
    rw [options]
    exact OptionSet.not_mem_values_inject merged _ _

/-- An empty value stays if the content is not computed: it has not dropped out of the options. -/
theorem blank_of_not_needs {changed : List String} {trigger : String}
    (unneeded : s.needs f .value (.others changed trigger) = false) (blank : state.value = "") :
    (outcome (s.refresh f (.others changed trigger)) state).own.value = "" := by
  have fresh (options : OptionSet) :
      hasStaleOption f { state with options := options } = false := by
    simp [hasStaleOption, blank]
  rw [(kept_of_not_proposed (not_proposes_of_not_needs unneeded (fresh _))).1, blank]

end Surroundings

/-! ## Waves -/

/-- What has changed at the turn of a dropdown that has its options computed also has its value
computed. -/
def Graph.Filled (g : Graph) (f : Field) (changed : List String) : Prop :=
  (∃ x ∈ g.context f.id .options, x ∈ changed) → ∃ x ∈ g.context f.id .value, x ∈ changed

/-- The waves of `o` that have the options of the field computed also have its value computed. -/
def Definition.Fills (form : Definition) (o : String) (f : Field) : Prop :=
  form.Reaches o .options f → form.Reaches o .value f

theorem Graph.Represents.fills_self (h : g.Represents form) (member : f ∈ form.fields) :
    form.Fills f.id f :=
  fun reaches => absurd reaches (h.not_reaches_self member)

theorem Graph.Represents.admits_fills (h : g.Represents form) (member : f ∈ form.fields)
    (fills : form.Fills o f) :
    g.Admits (fun changed => f.id ∉ changed ∧ g.Filled f changed) f.id o := by
  intro changed turn
  refine ⟨(h.of_turn turn).1, ?_⟩
  rw [Graph.Filled, h.meets_iff member turn, h.meets_iff member turn]
  exact fills

namespace Session

variable {s : Session} {env : Environment} {change : Change} {store : DocumentStore}
  {now : Calendar.Instant}

/-- The field has a value, or no first option. -/
def Chooses (s : Session) (f : Field) : Prop :=
  ∃ state, s.state? f.id = some state ∧ state.Chosen

theorem Chooses.refresh_other (chooses : s.Chooses f) (differs : f'.id ≠ f.id) :
    (s.refresh env f' change).Chooses f := by
  obtain ⟨state, found, chosen⟩ := chooses
  exact ⟨state, (state?_refresh_of_ne (Ne.symm differs)).trans found, chosen⟩

/-- Computing the value of a dropdown has it choose. -/
theorem Fits.chooses_refresh (fits : s.Fits form g) (member : f ∈ form.fields)
    (dropdown : f.kind.isDropdown = true)
    (proposes : ∀ state, ∃ v, (s.surroundings env).proposed f change state = some v) :
    (s.refresh env f change).Chooses f := by
  obtain ⟨state, found⟩ := fits.state? (List.mem_map_of_mem member)
  obtain ⟨v, proposed⟩ := proposes _
  exact ⟨_, state?_refresh_self found, Surroundings.chosen_of_proposed dropdown proposed⟩

theorem chooses_computeAll (h : g.Represents form) (fits : s.Fits form g) (env : Environment)
    (member : f ∈ form.fields) (dropdown : f.kind.isDropdown = true) :
    (s.computeAll env).Chooses f := by
  refine computeAll_brings (B := fun _ => True) (Q := fun t => t.Chooses f) h fits env member
    (fun _ _ _ _ _ => trivial) (fun t fits _ => ?_) (fun t f' _ differs _ chooses => ?_) trivial
  · exact exists_state?_computeField (fun _ chosen => chosen)
      (fits.chooses_refresh member dropdown (Surroundings.proposes_initial _))
  · exact exists_state?_computeField (fun _ chosen => chosen) (chooses.refresh_other differs)

/-! ## What was told last -/

/-- The display was told of options of the field, and of no value of it since. -/
def OptionsLast (s : Session) (id : String) : Prop :=
  ∃ before options after, s.updates = before ++ .options id options :: after ∧
    ∀ v, Update.value id v ∉ after

theorem OptionsLast.refresh {id : String} (last : s.OptionsLast id)
    (silent : ∀ v, .value id v ∉ (s.computed env f change).said) :
    (s.refresh env f change).OptionsLast id := by
  obtain ⟨before, options, after, told, none⟩ := last
  refine ⟨before, options, after ++ (s.computed env f change).said, ?_, fun v among => ?_⟩
  · rw [updates_refresh, told, List.append_assoc, List.cons_append]
  · exact (List.mem_append.1 among).elim (none v) (silent v)

theorem optionsLast_of_mem_said {id : String} {options : List String}
    (told : .options id options ∈ (s.computed env f change).said)
    (silent : ∀ v, .value id v ∉ (s.computed env f change).said) :
    (s.refresh env f change).OptionsLast id := by
  obtain ⟨before, after, said⟩ := List.append_of_mem told
  refine ⟨s.updates ++ before, options, after, ?_, fun v among => silent v ?_⟩
  · rw [updates_refresh, said, List.append_assoc]
  · rw [said]
    exact List.mem_append_right _ (List.mem_cons_of_mem _ among)

/-- The field has a value, or no first option, or the display was told of its options last. -/
def ChoosesOrTold (s : Session) (f : Field) : Prop :=
  ∃ state, s.state? f.id = some state ∧ (state.Chosen ∨ s.OptionsLast f.id)

/-- **Computing a dropdown keeps it so**: either it is left what it was, or its options are told
of. -/
theorem ChoosesOrTold.refresh_self (chooses : s.ChoosesOrTold f)
    (dropdown : f.kind.isDropdown = true) : (s.refresh env f change).ChoosesOrTold f := by
  obtain ⟨state, found, before⟩ := chooses
  refine ⟨_, state?_refresh_self found, ?_⟩
  have own : s.computed env f change = outcome ((s.surroundings env).refresh f change) state := by
    rw [computed, found]
    rfl
  cases proposed : (s.surroundings env).proposed f change
      { state with options := (s.surroundings env).offered f change state } with
  | some v => exact Or.inl (Surroundings.chosen_of_proposed dropdown proposed)
  | none =>
    obtain ⟨value, options⟩ := Surroundings.kept_of_not_proposed proposed
    have choices := Surroundings.choices_of_not_proposed proposed
    rw [← own] at choices
    rcases Surroundings.said_refreshOptions (s.surroundings env) f change state with
      ⟨none, same⟩ | one
    · rw [none] at choices
      rw [FieldState.Chosen, value, options, same]
      exact before.imp_right fun last => last.refresh fun v among =>
        List.filter_eq_nil_iff.1 choices _ among rfl
    · rw [one] at choices
      have told := List.mem_singleton_self
        (Update.options f.id ((s.surroundings env).offered f change state).values)
      rw [← choices] at told
      refine Or.inr (optionsLast_of_mem_said (List.mem_filter.1 told).1 fun v among => ?_)
      have choice : Update.value f.id v ∈ (s.computed env f change).said.filter Update.isChoice :=
        List.mem_filter.2 ⟨among, rfl⟩
      rw [choices] at choice
      cases List.mem_singleton.1 choice

/-- Whatever is done to an open form keeps it so. -/
theorem preserved_choosesOrTold (unique : form.ids.Nodup) (member : f ∈ form.fields)
    (dropdown : f.kind.isDropdown = true) :
    Preserved form fun t => t.form = form ∧ t.ChoosesOrTold f where
  ofForm := fun _ inv => inv.1
  refreshed := by
    intro s env f' member' change facts
    obtain ⟨ofForm, chooses⟩ := facts
    refine ⟨ofForm, ?_⟩
    by_cases same : f'.id = f.id
    · cases List.inj_on_of_nodup_map unique member' member same
      exact chooses.refresh_self dropdown
    · obtain ⟨state, found, chooses⟩ := chooses
      refine ⟨state, (state?_refresh_of_ne (Ne.symm same)).trans found, ?_⟩
      exact chooses.imp_right fun last => last.refresh fun v among =>
        same (said_computed _ among).symm
  marked := fun _ _ _ _ inv =>
    ⟨inv.1, exists_state?_computeField (fun _ chooses => chooses) inv.2⟩
  rescheduled := fun _ _ inv => inv
  recorded := fun _ _ inv => inv

/-- **A dropdown is followed on what its content refers to**, where new options come with a new
value. -/
theorem follows_chooses (h : g.Represents form) (member : f ∈ form.fields)
    (dropdown : f.kind.isDropdown = true) :
    Follows (fun _ => True) (fun changed => f.id ∉ changed ∧ g.Filled f changed) form g f
      ((g.context f.id .value).filter (· ≠ f.id)) fun s => s.Chooses f := by
  refine h.follows_value (fun _ _ chooses => chooses)
    (fun _ _ _ _ differs chooses => chooses.refresh_other differs)
    (fun s env changed trigger fits needed => ?computed)
    (fun s env changed trigger filled fits unneeded chooses => ?kept)
  case computed =>
    exact fits.chooses_refresh member dropdown (Surroundings.proposes_of_needs needed)
  case kept =>
    obtain ⟨state, found, chosen⟩ := chooses
    refine ⟨_, state?_refresh_self found, Surroundings.chosen_of_not_needs dropdown ?_ chosen⟩
    refine Bool.eq_false_iff.2 fun needed => ?_
    rw [fits.needs_iff.2 (filled (fits.needs_iff.1 needed))] at unneeded
    cases unneeded

/-- **An empty value stays** while only changes come to the field that do not have its value
computed. -/
theorem follows_blank (g : Graph) (form : Definition) (f : Field) :
    Follows (fun _ => True) (fun changed => ¬ ∃ x ∈ g.context f.id .value, x ∈ changed) form g f []
      fun s => s.value? f.id = some "" where
  sources := fun _ absurd => by cases absurd
  timeless := fun _ _ blank => blank
  others := fun _ _ _ _ _ _ differs _ blank =>
    (value?_refresh_of_ne (Ne.symm differs)).trans blank
  renewed := by
    intro s env changed trigger _ _ _ met
    obtain ⟨x, referred, -⟩ := met
    cases referred
  kept := by
    intro s env changed trigger _ apart fits _ blank
    obtain ⟨state, found, empty⟩ := Option.map_eq_some_iff.1 blank
    have unneeded : (s.surroundings env).needs f .value (.others changed trigger) = false :=
      Bool.eq_false_iff.2 fun needed => apart (fits.needs_iff.1 needed)
    rw [value?, state?_refresh_self found]
    exact congrArg some (Surroundings.blank_of_not_needs unneeded empty)

/-- No option of a dropdown is empty. -/
theorem lasts_filled (form : Definition) : Lasts form fun f state =>
    f.kind.isDropdown = true → "" ∉ state.options.values where
  created := by
    intro f _ _
    unfold FieldState.created
    dsimp only
    split
    · exact OptionSet.not_mem_values_foldl_push List.not_mem_nil none _
    · exact List.not_mem_nil
  refreshed := fun _ _ _ _ _ filled dropdown =>
    Surroundings.not_mem_values_refresh dropdown (filled dropdown)
  marked := fun _ _ _ filled => filled

/-- While the dropdown has no choice, it offers all that the expression of its options gives now. -/
def OffersAll (s : Session) (store : DocumentStore) (now : Calendar.Instant) (f : Field)
    (source : String) : Prop :=
  ∃ state, s.state? f.id = some state ∧ Surroundings.hasStaleOption f state = false ∧
    (state.value = "" → ∀ v ∈ Surroundings.optionValues (s.reads store now source), v ≠ "" →
      v ∈ state.options.values)

/-- **What a dropdown without a choice offers is followed on what its options refer to**, as long as
its value is not computed. -/
theorem follows_offersAll (h : g.Represents form) (member : f ∈ form.fields)
    (kind : f.kind = .dropdown (some (.expression source))) (steady : f.Steady store .options)
    (now : Calendar.Instant) :
    Follows (fun env => env.store = store)
      (fun changed => ¬ ∃ x ∈ g.context f.id .value, x ∈ changed) form g f
      (g.context f.id .options) fun s => s.OffersAll store now f source where
  sources := by
    intro x referred
    refine h.edge_of_mem_context referred ?_
    rintro rfl
    exact steady.foreign h member referred
  timeless := fun _ _ offers => offers
  others := by
    rintro s env f' change - fits differs unread ⟨state, found, fresh, all⟩
    rw [OffersAll, fits.reads_refresh_unread h member kind unread]
    exact ⟨state, (state?_refresh_of_ne (Ne.symm differs)).trans found, fresh, all⟩
  renewed := by
    rintro s ⟨store', now'⟩ changed trigger rfl - fits met
    obtain ⟨state, found⟩ := fits.state? (List.mem_map_of_mem member)
    have text := Field.text?_of_kind kind
    have reads := fits.readsAs h ⟨store', now'⟩ member (fun raw given => (steady raw given).1)
    refine ⟨_, state?_refresh_self found, Surroundings.hasStaleOption_refresh state,
      fun blank v listed filled => ?_⟩
    rw [fits.reads_refresh_self steady text now now'] at listed
    rw [Surroundings.options_of_blank (by rw [kind]; rfl) blank,
      Surroundings.offered_of_expression kind, Surroundings.newOptions,
      if_pos (fits.needs_iff.2 met), reads source text]
    exact OptionSet.mem_values_merge _ listed filled
  kept := by
    rintro s ⟨store', now'⟩ changed trigger rfl apart fits unmet ⟨state, found, fresh, all⟩
    have unneeded : (s.surroundings ⟨store', now'⟩).needs f .options (.others changed trigger) =
        false :=
      Bool.eq_false_iff.2 fun needed => unmet (fits.needs_iff.1 needed)
    have uncomputed : (s.surroundings ⟨store', now'⟩).needs f .value (.others changed trigger) =
        false :=
      Bool.eq_false_iff.2 fun needed => apart (fits.needs_iff.1 needed)
    have same := Surroundings.offered_of_not_needs unneeded state
    have unproposed (options : OptionSet) (same : options = state.options) :
        (s.surroundings ⟨store', now'⟩).proposed f (.others changed trigger)
          { state with options := options } = none := by
      rw [same]
      exact Surroundings.not_proposes_of_not_needs uncomputed fresh
    obtain ⟨value, options⟩ := Surroundings.kept_of_not_proposed (unproposed _ same)
    refine ⟨_, state?_refresh_self found, Surroundings.hasStaleOption_refresh state, ?_⟩
    rw [value, options, same,
      fits.reads_refresh_self steady (Field.text?_of_kind kind) now now]
    exact all

/-! ## Settled dropdowns -/

section Settled

variable {steps : List (Environment × Action)}

/-- What starts without having the value computed keeps the value from being computed. -/
theorem admits_unreached {α : Type} {steps : List (α × Action)} (h : g.Represents form)
    (member : f ∈ form.fields)
    (ordinary : ∀ step ∈ steps, ∀ id trigger, step.2 ≠ .sourceChanged id trigger)
    (spared : ∀ o, (o ∈ s.waiting ∨ ∃ step ∈ steps, ∃ raw, step.2 = .edit o raw) →
      o ≠ f.id ∧ ¬ form.Reaches o .value f) :
    ∀ o, (o ∈ s.waiting ∨ ∃ step ∈ steps, step.2.origin? = some o) →
      g.Admits (fun changed => ¬ ∃ x ∈ g.context f.id .value, x ∈ changed) f.id o := by
  intro o starts changed turn
  rw [h.meets_iff member turn]
  refine (spared o (starts.imp_right ?_)).2
  rintro ⟨step, inside, origin⟩
  exact ⟨step, inside, Action.edit_of_origin? origin (ordinary step inside)⟩

/-- **A field without a value goes on without one** as long as nothing has its value computed. -/
theorem Fits.blank_actAll (fits : s.Fits form g) (h : g.Represents form) (member : f ∈ form.fields)
    (blank : s.value? f.id = some "")
    (spared : ∀ o, (o ∈ s.waiting ∨ ∃ step ∈ steps, ∃ raw, step.2 = .edit o raw) →
      o ≠ f.id ∧ ¬ form.Reaches o .value f)
    (ordinary : ∀ step ∈ steps, ∀ id trigger, step.2 ≠ .sourceChanged id trigger)
    (idle : (s.actAll steps).schedule.isIdle = true) :
    (s.actAll steps).value? f.id = some "" := by
  have inv := (follows_blank g form f).actAll (Definition.field?_of_mem h.unique member) h fits
    (fun _ _ => trivial)
    (fun step inside raw edits => absurd rfl (spared f.id (Or.inr ⟨step, inside, raw, edits⟩)).1)
    (admits_unreached h member ordinary spared)
    (fun step inside _ changes => absurd changes (ordinary step inside _ _)) (Or.inl blank)
  exact inv.resolve_right (not_owes_of_isIdle idle)

/-- Such a field offers what the expression of its options gives, once an edit has had them
computed. -/
theorem Fits.offersAll_run (fits : s.Fits form g) (h : g.Represents form)
    (member : f ∈ form.fields) (kind : f.kind = .dropdown (some (.expression source)))
    (steady : f.Steady store .options) {edited : Calendar.Instant} {raw : String}
    {later : List (Calendar.Instant × Action)} (reaches : form.Reaches o .options f)
    (spared : ∀ o', (o' ∈ s.waiting ∨ ∃ step ∈ (edited, Action.edit o raw) :: later,
      ∃ raw, step.2 = .edit o' raw) → o' ≠ f.id ∧ ¬ form.Reaches o' .value f)
    (ordinary : ∀ step ∈ later, ∀ id trigger, step.2 ≠ .sourceChanged id trigger)
    (idle : (s.run store ((edited, .edit o raw) :: later)).schedule.isIdle = true) :
    (s.run store ((edited, .edit o raw) :: later)).OffersAll store now f source := by
  obtain ⟨f', there⟩ : ∃ f', form.field? o = some f' := by
    obtain ⟨x, ⟨-, known, -⟩, path⟩ := reaches
    exact Definition.exists_field?_of_path path known
  obtain ⟨-, rfl⟩ := Definition.mem_of_field? there
  have brings : (g.start f'.id).Brings (g.context f.id .options) f.id :=
    h.brings_of_reaches member (fun x refers => ((h.refers_iff member).1 refers).2) reaches
  have ordinary' : ∀ step ∈ (edited, Action.edit f'.id raw) :: later,
      ∀ id trigger, step.2 ≠ .sourceChanged id trigger :=
    List.forall_mem_cons.2 ⟨fun _ _ => nofun, ordinary⟩
  have inv := (follows_offersAll h member kind steady now).run_edit
    (Definition.field?_of_mem h.unique member) h fits there
    (fun step inside raw edits => absurd rfl
      (spared f.id (Or.inr ⟨step, List.mem_cons_of_mem _ inside, raw, edits⟩)).1)
    (admits_unreached h member ordinary' spared)
    (fun step inside _ changes => absurd changes (ordinary step inside _ _)) (Or.inr brings)
  exact inv.resolve_right (not_owes_of_isIdle idle)

end Settled

/-- **When a dropdown without a choice has no options.** It has none unless the display was told of
its options after its value. It has none, once nothing waits, if counting from the first computation
of the form, from when the dropdown has a choice or no options, or from an edit that has its value
computed, every wave that waits and every edit fills it. And it goes on without a choice, whatever
its options come to, while no wave and no edit has its value computed. -/
theorem no_options_of_blank {debounce : Nat} {t u : Session} {first : Environment}
    {before after : List (Environment × Action)} (opened : start form debounce = .ok s)
    (member : f ∈ form.fields) (dropdown : f.kind.isDropdown = true)
    (reached : u = (s.computeAll first).actAll before) (ran : t = u.actAll after)
    (ordinary : ∀ step ∈ after, ∀ id trigger, step.2 ≠ .sourceChanged id trigger)
    (idle : t.schedule.isIdle = true) :
    (∃ state, t.state? f.id = some state ∧ (state.value = "" →
      state.options.entries = [] ∨ ∃ earlier options later,
        t.updates = earlier ++ .options f.id options :: later ∧ ∀ v, .value f.id v ∉ later)) ∧
    ((before = [] ∨
        (∃ state, u.state? f.id = some state ∧ (state.value = "" → state.options.entries = [])) ∨
        ∃ env o raw rest, after = (env, .edit o raw) :: rest ∧
          (o = f.id ∨ form.Reaches o .value f)) →
      (∀ o, (o ∈ u.waiting ∨ ∃ step ∈ after, ∃ raw, step.2 = .edit o raw) → form.Fills o f) →
      ∃ state, t.state? f.id = some state ∧ (state.value = "" → state.options.entries = [])) ∧
    (u.value? f.id = some "" →
      (∀ o, (o ∈ u.waiting ∨ ∃ step ∈ after, ∃ raw, step.2 = .edit o raw) →
        o ≠ f.id ∧ ¬ form.Reaches o .value f) →
      t.value? f.id = some "") := by
  have h := Graph.represents_of_ok (start_ok opened).2.1
  have fits : u.Fits form s.graph := by
    rw [reached]
    exact ((fits_start opened).computeAll first).actAll before
  have reached' : t.Reached form debounce := by
    rw [ran, reached]
    exact ((Reached.allComputed first (.opened opened)).actAll before).actAll after
  have initially := chooses_computeAll h (fits_start opened) first member dropdown
  -- No option is empty, so without a first option there is none.
  have bare {state : FieldState} (found : t.state? f.id = some state) (chosen : state.Chosen)
      (empty : state.value = "") : state.options.entries = [] := by
    obtain ⟨state', found', filled⟩ := (reached'.upholds (lasts_filled form)).fields f member
    cases found.symm.trans found'
    exact OptionSet.entries_eq_nil_of_first? (filled dropdown) (chosen empty)
  refine ⟨?_, fun since fills => ?_, fun blank spared => ?_⟩
  · have preserved := preserved_choosesOrTold h.unique member dropdown
    obtain ⟨state, found, chosen⟩ := initially
    have inv := preserved.actAll (preserved.actAll (s := s.computeAll first)
      ⟨((fits_start opened).computeAll first).ofForm, state, found, Or.inl chosen⟩ before) after
    rw [← reached, ← ran] at inv
    obtain ⟨-, state, found, chooses⟩ := inv
    exact ⟨state, found, fun empty => chooses.imp_left fun chosen => bare found chosen empty⟩
  · have chooses : t.Chooses f := by
      rw [ran] at idle ⊢
      refine (follows_chooses h member dropdown).actAll_since h fits member
        (fun _ _ raw fits => fits.chooses_refresh member dropdown
          (Surroundings.proposes_user _ raw)) ?_
        (fun o starts => h.admits_fills member (fills o starts)) ordinary idle
      rcases since with none | ⟨state, found, bare⟩ | computed
      · rw [reached, none]
        exact Or.inl initially
      · refine Or.inl ⟨state, found, fun empty => ?_⟩
        rw [OptionSet.first?, OptionSet.values, bare empty]
        rfl
      · exact Or.inr computed
    obtain ⟨state, found, chosen⟩ := chooses
    exact ⟨state, found, bare found chosen⟩
  · rw [ran] at idle ⊢
    exact fits.blank_actAll h member blank spared ordinary idle

/-! ## An example -/

def destination : Field := { id := "city", label := "City", kind := .text }

def lodging : Field :=
  { id := "hotel", label := "Hotel", kind := .dropdown (some (.expression "{{$$.city}}")) }

def journey : Definition := { title := "Journey", fields := [destination, lodging] }

theorem lodging_mem : lodging ∈ journey.fields := List.mem_cons_of_mem _ List.mem_cons_self

theorem start_journey : ∃ s, start journey defaultDebounce = .ok s :=
  exists_ok_of_isSome (by decide +kernel)

/-- The hotel has no content to have computed. -/
theorem not_reaches_hotel : ¬ journey.Reaches o .value lodging := by
  intro reaches
  obtain ⟨x, ⟨-, -, raw, text, -⟩, -⟩ := reaches
  cases text

theorem steady_lodging : lodging.Steady store .options := by
  rintro raw ⟨⟩
  exact ⟨fun mentioned => absurd (mentions_city.1 mentioned) (by decide), refersTo_city.clockFree⟩

/-- There is no city, and no hotel to choose. -/
structure Bare (s : Session) : Prop where
  city : s.value? "city" = some ""
  hotel : ∃ state, s.state? "hotel" = some state ∧ state.value = "" ∧ state.options = {}

theorem Bare.computeField_destination (bare : s.Bare) (fits : s.Fits journey g)
    (env : Environment) : (s.computeField env destination).Bare where
  city := by
    obtain ⟨old, new, -, found, renews⟩ := fits.renews env .initial List.mem_cons_self
    rw [value?_computeField]
    exact (congrArg _ found).trans (congrArg some (renews.value rfl))
  hotel := by
    refine exists_state?_computeField (fun _ bare => bare) ?_
    rw [state?_refresh_of_ne (by decide)]
    exact bare.hotel

/-- Of no city nothing is offered. -/
theorem Bare.computeField_lodging (bare : s.Bare) (fits : s.Fits journey g)
    (h : g.Represents journey) (env : Environment) : (s.computeField env lodging).Bare where
  city := by
    rw [value?_computeField, value?_refresh_of_ne (by decide)]
    exact bare.city
  hotel := by
    obtain ⟨state, found, -, none⟩ := bare.hotel
    have steady : lodging.Steady env.store .options := steady_lodging
    have reads := fits.readsAs h env lodging_mem (fun raw given => (steady raw given).1)
    have offered : (s.surroundings env).offered lodging .initial state = {} := by
      rw [Surroundings.offered_of_expression rfl, Surroundings.newOptions, Surroundings.needs,
        if_pos rfl, reads _ rfl, reads_city bare.city, none]
      rfl
    have proposed : (s.surroundings env).proposed lodging .initial
        { state with options := (s.surroundings env).offered lodging .initial state } =
          some (.string "") := rfl
    obtain ⟨taken, accepted, value, options⟩ := Surroundings.taken_of_proposed rfl proposed
    cases accepted
    refine exists_state?_computeField (fun _ bare => bare) ⟨_, state?_refresh_self found, ?_⟩
    rw [options, value, offered]
    exact ⟨rfl, rfl⟩

theorem bare_computeAll (opened : start journey defaultDebounce = .ok s) (env : Environment) :
    (s.computeAll env).Bare := by
  have h := Graph.represents_of_ok (start_ok opened).2.1
  have first : s.Bare :=
    ⟨congrArg _ (state?_start opened h.unique List.mem_cons_self),
      _, state?_start opened h.unique lodging_mem, rfl, rfl⟩
  refine (computeAll_preserves (Q := fun t => t.Fits journey s.graph ∧ t.Bare)
    (fits_start opened).ofForm env (fun t f member inv => ?_) ⟨fits_start opened, first⟩).2
  obtain ⟨fits, bare⟩ := inv
  have fields : f = destination ∨ f = lodging := by simpa [journey] using member
  rcases fields with rfl | rfl
  · exact ⟨fits.computeField, bare.computeField_destination fits env⟩
  · exact ⟨fits.computeField, bare.computeField_lodging fits h env⟩

theorem Bare.value? (bare : s.Bare) : s.value? "hotel" = some "" := by
  obtain ⟨state, found, blank, -⟩ := bare.hotel
  rw [Session.value?, found, Option.map_some, blank]

/-- A hotel that is typed in is chosen; before that there is none, even when there is a city. -/
theorem no_options_of_blank_journey : ∃ s, start journey defaultDebounce = .ok s ∧
    ∀ (env : Environment) (t u : Session),
      t = (s.computeAll env).actAll [(env, .edit "city" "Rome"), (env, .settle)] →
      u = t.actAll [(env, .edit "hotel" "Hilton"), (env, .settle)] →
      t.value? "hotel" = some "" ∧ ∃ state, u.state? "hotel" = some state ∧
        (state.value = "" → state.options.entries = []) := by
  obtain ⟨s, started⟩ := start_journey
  refine ⟨s, started, ?_⟩
  intro env t u ran later
  have h := Graph.represents_of_ok (start_ok started).2.1
  have first := (fits_start started).computeAll env
  have idle : t.schedule.isIdle = true := by
    rw [ran]
    exact (first.act (.edit "city" "Rome")).isIdle_settle env
  have fits : t.Fits journey s.graph := by
    rw [ran]
    exact first.actAll _
  have idle' : u.schedule.isIdle = true := by
    rw [later]
    exact (fits.act (.edit "hotel" "Hilton")).isIdle_settle env
  refine ⟨?_, ?_⟩
  · have unmoved : s.computeAll env = (s.computeAll env).actAll [] := rfl
    refine (no_options_of_blank started lodging_mem rfl unmoved ran (by simp) idle).2.2
      (bare_computeAll started env).value? fun o starts => ?_
    rw [eq_of_edit_settle (isIdle_computeAll started env) starts]
    exact ⟨by decide, not_reaches_hotel⟩
  · refine (no_options_of_blank started lodging_mem rfl ran later (by simp) idle').2.1
      (Or.inr (Or.inr ⟨env, "hotel", "Hilton", _, rfl, Or.inl rfl⟩)) fun o starts => ?_
    rw [eq_of_edit_settle idle starts]
    exact h.fills_self lodging_mem

/-- Once there is a city there is a hotel to choose, and none is chosen. -/
theorem unchosen_journey : ∃ s, start journey defaultDebounce = .ok s ∧
    ∀ (store : DocumentStore) (t : Session),
      t = (s.computeAll ⟨store, 0⟩).run store [(0, .edit "city" "Rome"), (0, .settle)] →
      t.schedule.isIdle = true ∧ ∃ state, t.state? "hotel" = some state ∧ state.value = "" ∧
        "Rome" ∈ state.options.values := by
  obtain ⟨s, started⟩ := start_journey
  refine ⟨s, started, ?_⟩
  intro store t ran
  have h := Graph.represents_of_ok (start_ok started).2.1
  have first := (fits_start started).computeAll ⟨store, 0⟩
  have nothing := isIdle_computeAll started ⟨store, 0⟩
  have idle : t.schedule.isIdle = true := by
    rw [ran]
    exact (first.act (.edit "city" "Rome")).isIdle_settle ⟨store, 0⟩
  have spared {α : Type} {i : α} : ∀ o, (o ∈ (s.computeAll ⟨store, 0⟩).waiting ∨
      ∃ step ∈ [(i, Action.edit "city" "Rome"), (i, .settle)], ∃ raw, step.2 = .edit o raw) →
      o ≠ lodging.id ∧ ¬ journey.Reaches o .value lodging := by
    intro o starts
    rw [eq_of_edit_settle nothing starts]
    exact ⟨by decide, not_reaches_hotel⟩
  have blank : t.value? "hotel" = some "" := by
    rw [ran] at idle ⊢
    rw [run_eq_actAll] at idle ⊢
    exact first.blank_actAll h lodging_mem (bare_computeAll started _).value? spared (by simp) idle
  have given : t.value? "city" = some "Rome" := by
    rw [ran]
    exact (first.holds_edit_settle h List.mem_cons_self nothing rfl fun _ => rfl).value?
  have reaches : journey.Reaches "city" .options lodging :=
    ⟨"city", ⟨by decide, by decide, "{{$$.city}}", rfl, mentions_city.2 rfl⟩, .refl⟩
  have offers : t.OffersAll store 0 lodging "{{$$.city}}" := by
    rw [ran] at idle ⊢
    exact first.offersAll_run h lodging_mem rfl steady_lodging reaches spared (by simp) idle
  obtain ⟨state, found, value⟩ := Option.map_eq_some_iff.1 blank
  obtain ⟨state', found', -, all⟩ := offers
  cases found.symm.trans found'
  refine ⟨idle, state, found, value, all value "Rome" ?_ (by decide)⟩
  rw [reads_city given]
  exact List.mem_cons_self

end Session

end Formulary.Form
