import Formulary.Display.FormView
import Formulary.Proofs.Reached

/-!
# What is shown of a form

A display knows of a form what it is told. Each computation of a field tells of all that it changes
in the state of the field, and last of what it has changed last (`Faithful`). So a display that has
been told everything shows each field as it is. One that shows something else, because a user has
typed it in, goes on to show it until it is told of the value (`FieldView.Heeds`).

* `mirrors_of_told`: a display that was told all updates mirrors the form.
-/

namespace Formulary.Display

open Form (Field FieldState Update)

variable {v : FieldView} {i : String} {state : FieldState} {u : Update} {us : List Update}

/-- The field with this id and state is shown as it is. -/
structure FieldView.Mirrors (v : FieldView) (id : String) (state : FieldState) : Prop where
  id : v.id = id
  value : v.value = state.value
  options : v.options = state.options.values
  placeholder : v.placeholder = state.placeholder
  description : v.description = state.description
  visible : v.visible = !state.hidden

/-- A field that was shown as `v`, after the display was told what changed its state from `old` to
`new`, is shown as `w`. -/
structure FieldView.Heeds (v w : FieldView) (old new : FieldState) : Prop where
  kind : w.kind = v.kind
  value : w.value = new.value ∨ w.value = v.value ∧ new.value = old.value

/-- The value was told of nothing. -/
theorem FieldView.Heeds.of_same {w : FieldView} {old new : FieldState} (kind : w.kind = v.kind)
    (value : w.value = v.value) (kept : new.value = old.value) : v.Heeds w old new :=
  ⟨kind, Or.inr ⟨value, kept⟩⟩

theorem FieldView.Heeds.trans {w x : FieldView} {old new newer : FieldState}
    (first : v.Heeds w old new) (second : w.Heeds x new newer) : v.Heeds x old newer := by
  refine ⟨second.kind.trans first.kind, ?_⟩
  rcases second.value with told | ⟨same, kept⟩
  · exact Or.inl told
  · rcases first.value with told | ⟨same', kept'⟩
    · exact Or.inl (same.trans (told.trans kept.symm))
    · exact Or.inr ⟨same.trans same', kept.trans kept'⟩

theorem FieldView.id_apply (about : u.id = i) (named : v.id = i) : (v.apply u).id = i := by
  cases u with
  | render f => exact about
  | _ => exact named

theorem FieldView.id_foldl_apply (about : ∀ u ∈ us, u.id = i) (named : v.id = i) :
    (us.foldl FieldView.apply v).id = i := by
  induction us generalizing v with
  | nil => exact named
  | cons u us ih =>
    refine ih (fun u later => about u (List.mem_cons_of_mem _ later)) ?_
    exact FieldView.id_apply (about u List.mem_cons_self) named

namespace FormView

variable {view : FormView} {fields : List FieldView} {change change' : FieldView → FieldView}

/-! ## Changing one field -/

theorem changeField_of_notMem (absent : i ∉ fields.map FieldView.id) :
    changeField i change fields = fields := by
  induction fields with
  | nil => rfl
  | cons v fields ih =>
    rw [List.map_cons, List.mem_cons, not_or] at absent
    rw [changeField, if_neg (Ne.symm absent.1), ih absent.2]

theorem changeField_append_of_notMem (absent : i ∉ fields.map FieldView.id) (v : FieldView)
    (named : v.id = i) : changeField i change (fields ++ [v]) = fields ++ [change v] := by
  induction fields with
  | nil => rw [List.nil_append, changeField, if_pos named, List.nil_append]
  | cons w fields ih =>
    rw [List.map_cons, List.mem_cons, not_or] at absent
    rw [List.cons_append, changeField, if_neg (Ne.symm absent.1), ih absent.2, List.cons_append]

theorem changeField_changeField (keeps : ∀ v, v.id = i → (change v).id = i) :
    changeField i change' (changeField i change fields) =
      changeField i (fun v => change' (change v)) fields := by
  induction fields with
  | nil => rfl
  | cons v fields ih =>
    by_cases here : v.id = i
    · rw [changeField, if_pos here, changeField, if_pos (keeps v here), changeField, if_pos here]
    · rw [changeField, if_neg here, changeField, if_neg here, ih, changeField, if_neg here]

theorem changeField_id : changeField i (fun v => v) fields = fields := by
  induction fields with
  | nil => rfl
  | cons v fields ih =>
    rw [changeField, ih]
    split <;> rfl

theorem ids_changeField (keeps : ∀ v, v.id = i → (change v).id = i) :
    (changeField i change fields).map FieldView.id = fields.map FieldView.id := by
  induction fields with
  | nil => rfl
  | cons v fields ih =>
    rw [changeField]
    split
    · rename_i here
      rw [List.map_cons, List.map_cons, keeps v here, here]
    · rw [List.map_cons, List.map_cons, ih]

variable {known : List Field} {R S : FieldView → Field → Prop}

theorem ids_of_forall₂ (shown : List.Forall₂ R fields known)
    (named : ∀ v f, R v f → v.id = f.id) :
    fields.map FieldView.id = known.map Field.id := by
  induction shown with
  | nil => rfl
  | cons first _ ih => rw [List.map_cons, List.map_cons, named _ _ first, ih]

/-- A change of one field is for that field; the others are related to theirs as they were. -/
theorem forall₂_changeField (shown : List.Forall₂ R fields known)
    (unique : (known.map Field.id).Nodup) (named : ∀ v f, R v f → v.id = f.id)
    (changed : ∀ v f, f.id = i → R v f → S (change v) f)
    (kept : ∀ v f, f.id ≠ i → R v f → S v f) :
    List.Forall₂ S (changeField i change fields) known := by
  induction shown with
  | nil => exact .nil
  | @cons v f fields known first others ih =>
    obtain ⟨apart, unique⟩ := List.nodup_cons.1 unique
    rw [changeField]
    split
    · rename_i here
      have same : f.id = i := (named v f first).symm.trans here
      have rest := ih unique
      rw [changeField_of_notMem] at rest
      · exact .cons (changed v f same first) rest
      · rw [ids_of_forall₂ others named, ← same]
        exact apart
    · rename_i elsewhere
      have differs : f.id ≠ i := fun same => elsewhere ((named v f first).trans same)
      exact .cons (kept v f differs first) (ih unique)

/-! ## Telling the display -/

theorem fields_keepFocusVisible : view.keepFocusVisible.fields = view.fields := by
  unfold keepFocusVisible
  split
  · rfl
  · unfold next focusFirst
    split <;> rfl

theorem fields_apply (known : u.id ∈ view.fields.map FieldView.id) :
    (view.apply u).fields = changeField u.id (·.apply u) view.fields := by
  cases u with
  | render f =>
    have there : view.fields.any (·.id = f.id) = true := by
      obtain ⟨v, inside, same⟩ := List.mem_map.1 known
      exact List.any_eq_true.2 ⟨v, inside, decide_eq_true same⟩
    unfold apply
    dsimp only
    rw [if_pos there]
    exact fields_keepFocusVisible
  | _ => exact fields_keepFocusVisible

/-- What is told of one field changes this one. -/
theorem fields_foldl_apply (about : ∀ u ∈ us, u.id = i) (known : i ∈ view.fields.map FieldView.id) :
    (us.foldl apply view).fields =
      changeField i (fun v => us.foldl FieldView.apply v) view.fields := by
  induction us generalizing view with
  | nil => exact changeField_id.symm
  | cons u us ih =>
    have first := about u List.mem_cons_self
    have told : (view.apply u).fields = changeField i (·.apply u) view.fields := by
      rw [← first] at known ⊢
      exact fields_apply known
    have keeps : ∀ v : FieldView, v.id = i → (v.apply u).id = i :=
      fun v named => FieldView.id_apply first named
    rw [List.foldl_cons, ih (fun u later => about u (List.mem_cons_of_mem _ later)), told,
      changeField_changeField keeps]
    · rfl
    · rw [told, ids_changeField keeps]
      exact known

end FormView

end Formulary.Display

namespace Formulary.Form

open Display (FieldView FormView)

/-! ## Computing a field -/

/-- A computation about a field that tells of all that it changes in the field's state: a display
that has shown the field as it was shows it as it is then. Of a value that it does not change it may
say nothing. -/
structure Faithful {α : Type} (i : String) (m : RefreshM α) : Prop where
  about : About i m
  mirrors : ∀ state v, FieldView.Mirrors v i state →
    ((outcome m state).said.foldl FieldView.apply v).Mirrors i (outcome m state).own
  heeds : ∀ state v, FieldView.Heeds v ((outcome m state).said.foldl FieldView.apply v) state
    (outcome m state).own

section Parts

variable {α β : Type} {i : String} {m m' : RefreshM α} {k : α → RefreshM β}

theorem Reads.faithful {value : FieldState → α} (h : Reads m value) : Faithful i m where
  about := h.about
  mirrors := by
    intro state v mirrors
    rw [h.outcome]
    exact mirrors
  heeds := by
    intro state v
    rw [h.outcome]
    exact .of_same rfl rfl rfl

theorem Faithful.bind (first : Faithful i m) (later : ∀ a, Faithful i (k a)) :
    Faithful i (m >>= k) where
  about := first.about.bind fun a => (later a).about
  mirrors := by
    intro state v mirrors
    rw [outcome_bind m fun a => (later a).about, List.foldl_append]
    exact (later _).mirrors _ _ (first.mirrors state v mirrors)
  heeds := by
    intro state v
    rw [outcome_bind m fun a => (later a).about, List.foldl_append]
    exact (first.heeds state v).trans ((later _).heeds _ _)

theorem Faithful.ite (c : Prop) [Decidable c] (first : Faithful i m) (second : Faithful i m') :
    Faithful i (if c then m else m') := by
  by_cases h : c
  · simpa only [if_pos h] using first
  · simpa only [if_neg h] using second

end Parts

namespace Surroundings

variable {s : Surroundings} {f : Field} {change : Change}

theorem faithful_refreshOptions : Faithful f.id (s.refreshOptions f change) := by
  have nothing : Faithful f.id (pure () : RefreshM Unit) := (reads_pure ()).faithful
  unfold refreshOptions
  split
  · refine Faithful.ite _ ((reads_evaluateText .options _).faithful.bind fun v => ?_) nothing
    refine ⟨reads_own.about.bind fun _ => (about_setOwn _).bind fun _ => about_tell rfl,
      fun state v mirrors => ?_, fun state v => .of_same rfl rfl rfl⟩
    exact { mirrors with options := rfl }
  · exact nothing

theorem faithful_refreshLimit (name : PropertyName) (limit : Option (Template.Property Binary64))
    (set : Binary64 → Limits → Limits) :
    Faithful f.id (s.refreshLimit f change name limit set) := by
  have nothing : Faithful f.id (pure () : RefreshM Unit) := (reads_pure ()).faithful
  unfold refreshLimit
  cases limit with
  | none => exact nothing
  | some limit =>
    refine Faithful.ite _ ((reads_evaluate name Json.float limit).faithful.bind fun v => ?_) nothing
    refine Faithful.ite _ ⟨reads_own.about.bind fun _ => about_setOwn _,
      fun state v mirrors => ?_, fun state v => .of_same rfl rfl rfl⟩ nothing
    exact { mirrors with }

theorem faithful_refreshLimits : Faithful f.id (s.refreshLimits f change) := by
  unfold refreshLimits
  split
  · exact (faithful_refreshLimit _ _ _).bind fun _ => (faithful_refreshLimit _ _ _).bind fun _ =>
      faithful_refreshLimit _ _ _
  · exact (reads_pure ()).faithful

/-- A value that is not taken in leaves the options. -/
theorem inject_of_not_fresh {options : OptionSet} {mark : Provenance} {value : String}
    (stale : (options.inject mark value).2 = false) : (options.inject mark value).1 = options := by
  unfold OptionSet.inject at stale ⊢
  split at stale
  · rename_i there
    rw [if_pos there]
  · cases stale

/-- What is stored is told. -/
theorem told_store (f : Field) (change : Change) (value : String) (state : FieldState)
    (v : FieldView) :
    ((outcome (store f change value) state).said.foldl FieldView.apply v).kind = v.kind ∧
      ((outcome (store f change value) state).said.foldl FieldView.apply v).value =
        (outcome (store f change value) state).own.value := by
  cases dropdown : f.kind.isDropdown with
  | false =>
    unfold store
    rw [dropdown]
    exact ⟨rfl, rfl⟩
  | true =>
    rw [outcome_store_of_dropdown dropdown]
    dsimp only
    generalize (if value.isEmpty then (state.options.first?).getD "" else value) = stored
    cases (state.options.inject ⟨valueSource f change, .value⟩ stored).2 <;> exact ⟨rfl, rfl⟩

theorem faithful_store (value : String) : Faithful f.id (store f change value) where
  about := about_store value
  mirrors := by
    intro state v mirrors
    cases dropdown : f.kind.isDropdown with
    | false =>
      unfold store
      rw [dropdown]
      exact { mirrors with value := rfl }
    | true =>
      rw [outcome_store_of_dropdown dropdown]
      dsimp only
      generalize (if value.isEmpty then (state.options.first?).getD "" else value) = stored
      cases fresh : (state.options.inject ⟨valueSource f change, .value⟩ stored).2 with
      | true => exact { mirrors with options := rfl, value := rfl }
      | false =>
        rw [inject_of_not_fresh fresh]
        exact { mirrors with value := rfl }
  heeds := by
    intro state v
    obtain ⟨kind, told⟩ := told_store f change value state v
    exact ⟨kind, Or.inl told⟩

theorem faithful_refreshValue : Faithful f.id (s.refreshValue f change) where
  about := about_refreshValue
  mirrors := by
    intro state v mirrors
    rw [outcome_refreshValue]
    cases s.proposed f change state with
    | none => exact mirrors
    | some candidate =>
      dsimp only
      cases coerce f.kind state.limits candidate with
      | ok value => exact (faithful_store value).mirrors state v mirrors
      | error e => exact mirrors
  heeds := by
    intro state v
    rw [outcome_refreshValue]
    cases s.proposed f change state with
    | none => exact .of_same rfl rfl rfl
    | some candidate =>
      dsimp only
      cases coerce f.kind state.limits candidate with
      | ok value => exact (faithful_store value).heeds state v
      | error e => exact .of_same rfl rfl rfl

theorem faithful_refreshPlaceholder : Faithful f.id (s.refreshPlaceholder f change) := by
  have nothing : Faithful f.id (pure () : RefreshM Unit) := (reads_pure ()).faithful
  unfold refreshPlaceholder
  split
  · exact nothing
  · refine Faithful.ite _ ((reads_evaluateText .placeholder _).faithful.bind fun v => ?_) nothing
    have told (text : String) : About f.id (tell (.placeholder f.id text)) := about_tell rfl
    refine ⟨(told _).bind fun _ => reads_own.about.bind fun _ => about_setOwn _,
      fun state v mirrors => ?_, fun state v => .of_same rfl rfl rfl⟩
    exact { mirrors with placeholder := rfl }

theorem faithful_refreshDescription : Faithful f.id (s.refreshDescription f change) := by
  have nothing : Faithful f.id (pure () : RefreshM Unit) := (reads_pure ()).faithful
  unfold refreshDescription
  split
  · exact nothing
  · refine Faithful.ite _ ((reads_evaluateText .description _).faithful.bind fun v => ?_) nothing
    have told (text : String) : About f.id (tell (.description f.id text)) := about_tell rfl
    refine ⟨(told _).bind fun _ => reads_own.about.bind fun _ => about_setOwn _,
      fun state v mirrors => ?_, fun state v => .of_same rfl rfl rfl⟩
    exact { mirrors with description := rfl }

theorem faithful_refreshVisibility : Faithful f.id (s.refreshVisibility f change) := by
  unfold refreshVisibility
  refine Faithful.ite _ (reads_isHidden.faithful.bind fun hidden => ?_) (reads_pure ()).faithful
  have told (visible : Bool) : About f.id (tell (.visible f.id visible)) := about_tell rfl
  refine ⟨reads_own.about.bind fun _ => (about_setOwn _).bind fun _ => told _,
    fun state v mirrors => ?_, fun state v => .of_same rfl rfl rfl⟩
  exact { mirrors with visible := rfl }

/-- What is computed after the value. -/
theorem faithful_refreshRest : Faithful f.id (do
    s.refreshPlaceholder f change
    s.refreshDescription f change
    s.refreshVisibility f change) :=
  faithful_refreshPlaceholder.bind fun _ => faithful_refreshDescription.bind fun _ =>
    faithful_refreshVisibility

/-- **Computing a field tells of all that it changes.** -/
theorem faithful_refresh : Faithful f.id (s.refresh f change) :=
  faithful_refreshOptions.bind fun _ => faithful_refreshLimits.bind fun _ =>
    faithful_refreshValue.bind fun _ => faithful_refreshRest

end Surroundings

namespace Session

variable {form : Definition} {debounce : Nat} {s : Session} {env : Environment} {f : Field}
  {change : Change} {view : FormView} {shown : List Update}

/-! ## Opening -/

theorem mirrors_created (f : Field) :
    ((opening f).foldl FieldView.apply (.ofField f)).Mirrors f.id (FieldState.created f) := by
  unfold opening
  dsimp only
  split
  · rename_i none
    have empty : (FieldState.created f).options.values = [] := by
      rw [OptionSet.values, List.map_eq_nil_iff]
      exact List.isEmpty_iff.1 none
    exact ⟨rfl, rfl, empty.symm, rfl, rfl, rfl⟩
  · exact ⟨rfl, rfl, rfl, rfl, rfl, rfl⟩

/-- A field that the display does not show yet comes last. -/
theorem fields_opening (fresh : f.id ∉ view.fields.map FieldView.id) :
    ((opening f).foldl FormView.apply view).fields =
      view.fields ++ [(opening f).foldl FieldView.apply (.ofField f)] := by
  have unknown : view.fields.any (·.id = f.id) = false := by
    refine List.any_eq_false.2 fun v inside same => fresh ?_
    exact List.mem_map.2 ⟨v, inside, of_decide_eq_true same⟩
  have rendered : (view.apply (.render f)).fields = view.fields ++ [.ofField f] := by
    unfold FormView.apply
    dsimp only
    rw [unknown]
    rfl
  have about : ∀ u ∈ (opening f).tail, u.id = f.id := by
    unfold opening
    dsimp only
    split
    · exact fun u absurd => by cases absurd
    · exact fun u inside => by rw [List.mem_singleton.1 inside]; rfl
  have whole : opening f = .render f :: (opening f).tail := rfl
  rw [whole, List.foldl_cons, List.foldl_cons, FormView.fields_foldl_apply about, rendered,
    FormView.changeField_append_of_notMem fresh _ rfl]
  · rfl
  · rw [rendered]
    simp [FieldView.ofField]

/-- The fields come in the order of the form. -/
theorem fields_openings {fields : List Field}
    (unique : (view.fields.map FieldView.id ++ fields.map Field.id).Nodup) :
    ((fields.flatMap opening).foldl FormView.apply view).fields =
      view.fields ++ fields.map fun f => (opening f).foldl FieldView.apply (.ofField f) := by
  induction fields generalizing view with
  | nil => exact (List.append_nil _).symm
  | cons f fields ih =>
    have fresh : f.id ∉ view.fields.map FieldView.id := fun early =>
      (List.nodup_append.1 unique).2.2 f.id early f.id List.mem_cons_self rfl
    have shown := fields_opening fresh
    have named : ((opening f).foldl FieldView.apply (.ofField f)).id = f.id :=
      (mirrors_created f).id
    rw [List.flatMap_cons, List.foldl_append, ih, shown, List.append_assoc]
    · rfl
    · rw [shown, List.map_append, List.append_assoc, List.map_singleton, named]
      exact unique

/-! ## What is told in the course of a session -/

/-- A relation between what is shown of a field and the state of the field that computing the field
keeps up, when the display is told all that this says. -/
structure Tracked (R : FieldView → Field → FieldState → Prop) : Prop where
  named : ∀ v f state, R v f state → v.id = f.id
  refreshed : ∀ (s : Surroundings) f change state v, R v f state →
    R ((outcome (s.refresh f change) state).said.foldl FieldView.apply v) f
      (outcome (s.refresh f change) state).own
  marked : ∀ v f state, R v f state → R v f { state with initialized := true }

theorem tracked_mirrors : Tracked fun v f state => v.Mirrors f.id state where
  named := fun _ _ _ mirrors => mirrors.id
  refreshed := fun _ _ _ state v mirrors => Surroundings.faithful_refresh.mirrors state v mirrors
  marked := fun _ _ _ mirrors => { mirrors with }

/-- A display that was told `shown`, and then what the session has for it, shows the fields of the
form in order, each in this relation to its state. -/
structure Displays (s : Session) (R : FieldView → Field → FieldState → Prop) (form : Definition)
    (view : FormView) (shown : List Update) : Prop where
  ofForm : s.form = form
  fields : List.Forall₂ (fun v f => ∃ state, s.state? f.id = some state ∧ R v f state)
    ((shown ++ s.updates).foldl FormView.apply view).fields form.fields

variable {R S : FieldView → Field → FieldState → Prop}

theorem displays_start (opened : start form debounce = .ok s) (unique : form.ids.Nodup)
    (blank : view.fields = [])
    (first : ∀ f, R ((opening f).foldl FieldView.apply (.ofField f)) f (FieldState.created f)) :
    s.Displays R form view [] where
  ofForm := (start_ok opened).1
  fields := by
    have all : (view.fields.map FieldView.id ++ form.fields.map Field.id).Nodup := by
      rw [blank]
      exact unique
    show List.Forall₂ _ (s.updates.foldl FormView.apply view).fields _
    rw [updates_start opened, fields_openings all, blank, List.nil_append,
      List.forall₂_map_left_iff, List.forall₂_same]
    exact fun f member => ⟨_, state?_start opened unique member, first f⟩

/-- Computing a field may change the relation, as long as the others are in the new one. -/
theorem Displays.refreshTo (h : s.Displays R form view shown) (unique : form.ids.Nodup)
    (member : f ∈ form.fields) (named : ∀ v f state, R v f state → v.id = f.id)
    (itself : ∀ v state, s.state? f.id = some state → R v f state →
      S ((s.computed env f change).said.foldl FieldView.apply v) f (s.computed env f change).own)
    (others : ∀ v f' state, f'.id ≠ f.id → R v f' state → S v f' state) :
    (s.refresh env f change).Displays S form view shown where
  ofForm := h.ofForm
  fields := by
    have each : ∀ v f, (∃ state, s.state? f.id = some state ∧ R v f state) → v.id = f.id :=
      fun v f ⟨state, _, related⟩ => named v f state related
    have known : f.id ∈ ((shown ++ s.updates).foldl FormView.apply view).fields.map
        FieldView.id := by
      rw [FormView.ids_of_forall₂ h.fields each]
      exact List.mem_map_of_mem member
    rw [updates_refresh, ← List.append_assoc, List.foldl_append,
      FormView.fields_foldl_apply said_computed known]
    have both := (List.forall₂_and_left _ _).2 ⟨fun _ member => member, h.fields.flip⟩
    refine FormView.forall₂_changeField both.flip unique (fun v f ⟨_, related⟩ => each v f related)
      (fun v f' same ⟨member', state, found, related⟩ => ?_)
      fun v f' differs ⟨_, state, found, related⟩ => ?_
    · cases List.inj_on_of_nodup_map unique member' member same
      refine ⟨(s.computed env f change).own, ?_, itself v state found related⟩
      rw [state?_refresh, found, Option.map_some, if_pos rfl]
    · refine ⟨state, ?_, others v f' state differs related⟩
      rw [state?_refresh, found, Option.map_some, if_neg differs]

theorem preserved_displays (tracked : Tracked R) (unique : form.ids.Nodup) (view : FormView)
    (shown : List Update) : Preserved form fun s => s.Displays R form view shown where
  ofForm := fun _ h => h.ofForm
  refreshed := by
    intro s env f member change h
    refine h.refreshTo unique member tracked.named (fun v state found related => ?_)
      fun _ _ _ _ related => related
    rw [computed, found]
    exact tracked.refreshed _ f change state v related
  marked := by
    intro s env f _ h
    refine ⟨h.ofForm, h.fields.imp fun v f' held => ?_⟩
    obtain ⟨state, found, related⟩ := held
    rw [state?_computeField, found, Option.map_some]
    split
    · exact ⟨_, rfl, tracked.marked v f' state related⟩
    · exact ⟨_, rfl, related⟩
  rescheduled := fun _ _ h => ⟨h.ofForm, h.fields⟩
  recorded := fun _ _ h => ⟨h.ofForm, h.fields⟩

/-- Taking out what there is to tell. -/
theorem Displays.drain (h : s.Displays R form view shown) :
    s.drain.2.2.Displays R form view (shown ++ s.drain.1) where
  ofForm := h.ofForm
  fields := by
    show List.Forall₂ _ ((shown ++ s.updates ++ []).foldl FormView.apply view).fields form.fields
    rw [List.append_nil]
    exact h.fields

/-- The sessions that a form comes to, each with all that has been taken out for the display. -/
inductive Told (form : Definition) (debounce : Nat) : List Update → Session → Prop
  | opened {s : Session} : start form debounce = .ok s → Told form debounce [] s
  | computed {shown : List Update} {s : Session} (env : Environment) (id : String) :
    Told form debounce shown s → Told form debounce shown ((s.compute? env id).toOption.getD s)
  | allComputed {shown : List Update} {s : Session} (env : Environment) :
    Told form debounce shown s → Told form debounce shown (s.computeAll env)
  | acted {shown : List Update} {s : Session} (env : Environment) (a : Action) :
    Told form debounce shown s → Told form debounce shown (s.act env a)
  | drained {shown : List Update} {s : Session} :
    Told form debounce shown s → Told form debounce (shown ++ s.drain.1) s.drain.2.2
  | submitted {shown : List Update} {s : Session} (env : Environment) :
    Told form debounce shown s → Told form debounce shown (s.submit env).2

theorem Told.reached (told : Told form debounce shown s) : s.Reached form debounce := by
  induction told with
  | opened opened => exact .opened opened
  | computed env id _ ih => exact .computed env id ih
  | allComputed env _ ih => exact .allComputed env ih
  | acted env a _ ih => exact .acted env a ih
  | drained _ ih => exact .drained ih
  | submitted env _ ih => exact .submitted env ih

/-- **What is shown of a form.** After whatever has been done, a display that was told all shows the
fields of the form in order, each with the value, the options and the texts that it has then, and
visible just if it is not hidden. -/
theorem mirrors_of_told (told : Told form debounce shown s) (blank : view.fields = []) :
    List.Forall₂ (fun v f => ∃ state, s.state? f.id = some state ∧ v.Mirrors f.id state)
      ((shown ++ s.updates).foldl FormView.apply view).fields form.fields := by
  have unique := told.reached.unique
  have preserved := preserved_displays tracked_mirrors unique view
  have mirrored : s.Displays (fun v f state => v.Mirrors f.id state) form view shown := by
    induction told with
    | opened opened => exact displays_start opened unique blank mirrors_created
    | computed env id _ ih => exact (preserved _).compute? ih env id
    | allComputed env _ ih => exact (preserved _).computeAll ih env
    | acted env a _ ih => exact (preserved _).act ih env a
    | drained _ ih => exact ih.drain
    | submitted env _ ih => exact (preserved _).submit ih env
  exact mirrored.fields

/-- Part of what a session has to tell is taken out early, and an edit follows. -/
theorem mirrors_of_told_trip : ∃ s, start trip defaultDebounce = .ok s ∧
    ∀ (env : Environment) (u t : Session), u = s.computeAll env →
      t = (u.drain.2.2.act env (.edit "city" "Rome")).act env .settle →
      List.Forall₂ (fun v f => ∃ state, t.state? f.id = some state ∧ v.Mirrors f.id state)
        ((u.drain.1 ++ t.updates).foldl FormView.apply {}).fields trip.fields := by
  obtain ⟨s, started⟩ := start_trip
  refine ⟨s, started, ?_⟩
  rintro env u t rfl rfl
  have told : Told trip defaultDebounce (s.computeAll env).drain.1 _ :=
    .acted env .settle (.acted env (.edit "city" "Rome") (.drained (.allComputed env
      (.opened started))))
  exact mirrors_of_told told rfl

end Session

end Formulary.Form
