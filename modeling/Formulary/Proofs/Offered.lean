import Formulary.Proofs.LastEdit
import Formulary.Proofs.Reached
import Formulary.Proofs.Reaches
import Formulary.Proofs.Splice

/-!
# Options on account of a field

The options that an expression gives a dropdown are marked with the field on whose account they were
computed: the first of those that the expression refers to among the ones that have changed. The
next computation on the same account replaces them, and leaves those on another account. So the
options on account of one field are up to date if all that happened since they were computed was on
its account.

* `Definition.Accounts`: on whose account a wave computes the options.
* `offered_of_accounts`: which options of a settled dropdown are among the current values.
-/

namespace Formulary.Form

open Relation (ReflTransGen)

variable {form : Definition} {g : Graph} {f f' : Field} {x y o source : String} {e : Entry}

/-! ## Sets of options -/

namespace OptionSet

variable {options : OptionSet} {mark : Provenance} {value : String} {values : List String}

theorem mem_push_of_mem {mark : Option Provenance} (among : e ∈ options.entries) :
    e ∈ (options.push mark value).entries := by
  unfold push
  split
  · exact among
  · exact List.mem_append_left _ among

theorem mem_or_eq_of_mem_push {mark : Option Provenance}
    (among : e ∈ (options.push mark value).entries) :
    e ∈ options.entries ∨ (e.mark = mark ∧ e.value = value) := by
  unfold push at among
  split at among
  · exact Or.inl among
  · rcases List.mem_append.1 among with old | new
    · exact Or.inl old
    · rw [List.mem_singleton.1 new]
      exact Or.inr ⟨rfl, rfl⟩

theorem mem_drop_iff :
    e ∈ (options.drop mark).entries ↔ e ∈ options.entries ∧ e.mark ≠ some mark := by
  simp [drop]

theorem mem_foldl_push_of_mem {mark : Option Provenance} (among : e ∈ options.entries) :
    e ∈ (values.foldl (·.push mark) options).entries := by
  induction values generalizing options with
  | nil => exact among
  | cons value values ih => exact ih (mem_push_of_mem among)

/-- An option of another mark stays when values are merged in. -/
theorem mem_merge_of_mem (among : e ∈ options.entries) (other : e.mark ≠ some mark) :
    e ∈ (options.merge mark values).entries :=
  mem_foldl_push_of_mem (mem_drop_iff.2 ⟨among, other⟩)

/-- After values are merged in, an option has another mark and was there, or is one of them. -/
theorem of_mem_merge (among : e ∈ (options.merge mark values).entries) :
    (e ∈ options.entries ∧ e.mark ≠ some mark) ∨ (e.mark = some mark ∧ e.value ∈ values) := by
  unfold merge at among
  rw [← mem_drop_iff]
  generalize options.drop mark = start at among ⊢
  induction values generalizing start with
  | nil => exact Or.inl among
  | cons value values ih =>
    rcases ih _ among with before | ⟨marked, listed⟩
    · refine (mem_or_eq_of_mem_push before).imp_right fun new => ⟨new.1, ?_⟩
      rw [new.2]
      exact List.mem_cons_self
    · exact Or.inr ⟨marked, List.mem_cons_of_mem _ listed⟩

/-- Pushing a value under the mark that all options have adds it, unless it is empty. -/
theorem mem_push_iff (marked : ∀ e ∈ options.entries, e.mark = some mark)
    (given : e.mark = some mark) (filled : e.value.isEmpty = false) :
    e ∈ (options.push (some mark) value).entries ↔ e ∈ options.entries ∨ e.value = value := by
  constructor
  · exact fun among => (mem_or_eq_of_mem_push among).imp_right And.right
  · rintro (among | rfl)
    · exact mem_push_of_mem among
    · unfold push
      rw [filled, Bool.false_or]
      split
      · rename_i there
        obtain ⟨e', among, same⟩ := List.mem_map.1 (List.contains_iff_mem.1 there)
        have equal : e = e' := by
          have mark := (marked e' among).trans given.symm
          cases e
          cases e'
          exact congr (congrArg Entry.mk same.symm) mark.symm
        rw [equal]
        exact among
      · refine List.mem_append_right _ (List.mem_singleton.2 ?_)
        rw [← given]

/-- Values that are merged into no options are all there, but for an empty one. -/
theorem mem_merge_empty_iff (given : e.mark = some mark) (filled : e.value.isEmpty = false) :
    e ∈ (OptionSet.merge {} mark values).entries ↔ e.value ∈ values := by
  have shape (start : OptionSet) (marked : ∀ e ∈ start.entries, e.mark = some mark) :
      e ∈ (values.foldl (·.push (some mark)) start).entries ↔
        e ∈ start.entries ∨ e.value ∈ values := by
    induction values generalizing start with
    | nil => simp
    | cons value values ih =>
      have marked' : ∀ e ∈ (start.push (some mark) value).entries, e.mark = some mark :=
        fun e among => (mem_or_eq_of_mem_push among).elim (marked e) And.left
      rw [List.foldl_cons, ih _ marked', mem_push_iff marked given filled, List.mem_cons, or_assoc]
  have empty : e ∉ (OptionSet.drop {} mark).entries := List.not_mem_nil
  have unmarked : ∀ e ∈ (OptionSet.drop {} mark).entries, e.mark = some mark := by
    intro e among
    cases among
  rw [merge, shape _ unmarked, or_iff_right empty]

/-- Taking a value in leaves the options that an expression gave. -/
theorem mem_inject_iff (given : e.mark = some ⟨x, .options⟩) :
    e ∈ (options.inject ⟨y, .value⟩ value).1.entries ↔ e ∈ options.entries := by
  have other : e.mark ≠ some ⟨y, .value⟩ := by
    rw [given]
    rintro ⟨⟩
  unfold inject
  split
  · exact Iff.rfl
  · constructor
    · intro among
      rcases mem_or_eq_of_mem_push among with old | ⟨marked, -⟩
      · exact (mem_drop_iff.1 old).1
      · exact absurd marked other
    · exact fun among => mem_push_of_mem (mem_drop_iff.2 ⟨among, other⟩)

end OptionSet

/-! ## Computing a dropdown -/

namespace Surroundings

variable {s : Surroundings} {change : Change} {state : FieldState}

theorem mem_options_store (given : e.mark = some ⟨x, .options⟩) (value : String) :
    e ∈ (outcome (store f change value) state).own.options.entries ↔ e ∈ state.options.entries := by
  cases dropdown : f.kind.isDropdown with
  | false => rw [own_store_of_plain dropdown]
  | true =>
    rw [outcome_store_of_dropdown dropdown]
    exact OptionSet.mem_inject_iff given

/-- **The options that an expression gave are changed only by what it gives anew.** -/
theorem mem_options_refresh (kind : f.kind = .dropdown (some (.expression source)))
    (given : e.mark = some ⟨x, .options⟩) (state : FieldState) :
    e ∈ (outcome (s.refresh f change) state).own.options.entries ↔
      e ∈ (s.newOptions f change source state).entries := by
  have unlimited (state : FieldState) :
      (outcome (s.refreshLimits f change) state).own.options = state.options := by
    obtain ⟨limits, limited, -⟩ := own_refreshLimits s f change state
    rw [limited]
  have valued (state : FieldState) :
      e ∈ (outcome (s.refreshValue f change) state).own.options.entries ↔
        e ∈ state.options.entries := by
    rw [outcome_refreshValue]
    cases s.proposed f change state with
    | none => exact Iff.rfl
    | some candidate =>
      dsimp only
      cases coerce f.kind state.limits candidate with
      | ok value => exact mem_options_store given value
      | error e => exact Iff.rfl
  rw [own_refresh, own_refreshVisibility, own_refreshDescription, own_refreshPlaceholder, valued,
    unlimited, own_refreshOptions_of_expression kind]

end Surroundings

/-! ## On whose account -/

theorem Field.text?_of_kind (kind : f.kind = .dropdown (some (.expression source))) :
    f.text? .options = some source := by
  unfold text?
  rw [kind]
  rfl

/-- A wave of `o` has the options of the field computed on account of `x`: of the fields that they
refer to, this is the first that the wave reaches. -/
def Definition.Accounts (form : Definition) (o : String) (f : Field) (x : String) : Prop :=
  ∃ before after, form.referred .options f = before ++ x :: after ∧ ReflTransGen form.Edge o x ∧
    ∀ y ∈ before, ¬ ReflTransGen form.Edge o y

/-- Of the changed fields that the options refer to, the first is one of `accounts`. -/
def Graph.Accounted (g : Graph) (f : Field) (accounts : String → Prop) (changed : List String) :
    Prop :=
  ∀ y, (g.context f.id .options).find? (changed.contains ·) = some y → accounts y

/-- At the field's turn in a wave, the first of the changed fields that the options refer to. -/
theorem Graph.Represents.accounts_of_find? (h : g.Represents form) (member : f ∈ form.fields)
    (foreign : f.id ∉ g.context f.id .options) {changed : List String}
    (turn : (g.start o).Turn changed f.id)
    (found : (g.context f.id .options).find? (changed.contains ·) = some x) :
    form.Accounts o f x := by
  rw [List.find?_eq_some_iff_append] at found
  obtain ⟨met, before, after, shape, unmet⟩ := found
  have reached_iff {y : String} (referred : y ∈ g.context f.id .options) :
      y ∈ changed ↔ ReflTransGen form.Edge o y := by
    refine h.mem_changed_iff turn (h.edge_of_mem_context referred ?_)
    rintro rfl
    exact foreign referred
  refine ⟨before, after, (h.context_eq member .options).symm.trans shape, ?_, fun y early => ?_⟩
  · refine (reached_iff ?_).1 (List.contains_iff_mem.1 met)
    rw [shape]
    exact List.mem_append_right _ List.mem_cons_self
  · have referred : y ∈ g.context f.id .options := by
      rw [shape]
      exact List.mem_append_left _ early
    rw [← reached_iff referred, ← List.contains_iff_mem]
    simpa using unmet y early

/-- A wave on some account brings the options to the field. -/
theorem Graph.Represents.brings_of_accounts (h : g.Represents form) (member : f ∈ form.fields)
    (foreign : f.id ∉ g.context f.id .options) (accounts : form.Accounts o f x) :
    (g.start o).Brings (g.context f.id .options) f.id := by
  obtain ⟨before, after, shape, path, -⟩ := accounts
  have referred : x ∈ g.context f.id .options := by
    rw [h.context_eq member, shape]
    exact List.mem_append_right _ List.mem_cons_self
  refine h.brings_of_path referred (h.edge_of_mem_context referred ?_) path
  rintro rfl
  exact foreign referred

theorem Definition.exists_field?_of_accounts (h : g.Represents form) (member : f ∈ form.fields)
    (accounts : form.Accounts o f x) : ∃ f', form.field? o = some f' := by
  obtain ⟨before, after, shape, path, -⟩ := accounts
  have referred : x ∈ g.context f.id .options := by
    rw [h.context_eq member, shape]
    exact List.mem_append_right _ List.mem_cons_self
  obtain ⟨-, -, known, -⟩ := (h.mem_context member).1 referred
  exact exists_field?_of_path path known

namespace Session

variable {s : Session} {env : Environment} {change : Change} {store : DocumentStore}
  {now : Calendar.Instant} {good good' : String → String → Prop}

/-- What the expression of the options gave is good, by its account and its value. -/
def Offers (s : Session) (f : Field) (good : String → String → Prop) : Prop :=
  ∃ state, s.state? f.id = some state ∧
    ∀ e ∈ state.options.entries, ∀ y, e.mark = some ⟨y, .options⟩ → good y e.value

theorem Offers.imp (offers : s.Offers f good) (weaker : ∀ y v, good y v → good' y v) :
    s.Offers f good' := by
  obtain ⟨state, found, all⟩ := offers
  exact ⟨state, found, fun e among y given => weaker y e.value (all e among y given)⟩

theorem Offers.refresh_other (offers : s.Offers f good) (differs : f'.id ≠ f.id) :
    (s.refresh env f' change).Offers f good := by
  obtain ⟨state, found, all⟩ := offers
  refine ⟨state, ?_, all⟩
  rw [state?_refresh_of_ne (Ne.symm differs), found]

theorem Offers.computeField (offers : (s.refresh env f' .initial).Offers f good) :
    (s.computeField env f').Offers f good :=
  exists_state?_computeField (fun _ all => all) offers

/-- After the field has been computed its options are those there were, with what the expression
gives if it had to be computed. -/
theorem Fits.offers_refresh (fits : s.Fits form g) (member : f ∈ form.fields)
    (kind : f.kind = .dropdown (some (.expression source)))
    (all : ∀ old, s.state? f.id = some old →
      ∀ e ∈ ((s.surroundings env).newOptions f change source old).entries, ∀ y,
        e.mark = some ⟨y, .options⟩ → good y e.value) :
    (s.refresh env f change).Offers f good := by
  obtain ⟨old, found⟩ := fits.state? (List.mem_map_of_mem member)
  refine ⟨_, state?_refresh_self found, fun e among y given => ?_⟩
  rw [Surroundings.mem_options_refresh kind given] at among
  exact all old found e among y given

/-- A change that does not have the options computed leaves what is offered. -/
theorem Offers.refresh_self (offers : s.Offers f good) (fits : s.Fits form g)
    (member : f ∈ form.fields) (kind : f.kind = .dropdown (some (.expression source)))
    (unneeded : (s.surroundings env).needs f .options change = false) :
    (s.refresh env f change).Offers f good := by
  obtain ⟨state, present, all⟩ := offers
  refine fits.offers_refresh member kind fun old found e among y given => ?_
  cases present.symm.trans found
  rw [Surroundings.newOptions, unneeded, if_neg Bool.false_ne_true] at among
  exact all e among y given

/-- What is offered after the options were computed on some account: what there was on another, and
the current values. -/
theorem Fits.offers_of_needs (fits : s.Fits form g) (h : g.Represents form)
    (member : f ∈ form.fields) (kind : f.kind = .dropdown (some (.expression source)))
    (steady : f.Steady store .options)
    (needed : (s.surroundings ⟨store, now⟩).needs f .options change = true)
    (old : ∀ state, s.state? f.id = some state → ∀ e ∈ state.options.entries, ∀ y,
      e.mark = some ⟨y, .options⟩ → y ≠ (s.surroundings ⟨store, now⟩).optionSource f change →
        good y e.value)
    (new : ∀ v ∈ Surroundings.optionValues (s.reads store now source),
      good ((s.surroundings ⟨store, now⟩).optionSource f change) v) :
    (s.refresh ⟨store, now⟩ f change).Offers f good := by
  have text := Field.text?_of_kind kind
  have reads := fits.readsAs h ⟨store, now⟩ member (fun raw given => (steady raw given).1)
  refine fits.offers_refresh member kind fun state found e among y given => ?_
  rw [Surroundings.newOptions, needed, if_pos rfl, reads source text] at among
  rcases OptionSet.of_mem_merge among with ⟨before, other⟩ | ⟨marked, listed⟩
  · refine old state found e before y given fun same => other ?_
    rw [given, same]
  · cases given.symm.trans marked
    exact new e.value listed

/-- The option is among those of the field. -/
def Lists (s : Session) (f : Field) (e : Entry) : Prop :=
  ∃ state, s.state? f.id = some state ∧ e ∈ state.options.entries

theorem Lists.refresh_other (lists : s.Lists f e) (differs : f'.id ≠ f.id) :
    (s.refresh env f' change).Lists f e := by
  obtain ⟨state, found, there⟩ := lists
  refine ⟨state, ?_, there⟩
  rw [state?_refresh_of_ne (Ne.symm differs), found]

theorem Lists.computeField (lists : (s.refresh env f' .initial).Lists f e) :
    (s.computeField env f').Lists f e :=
  exists_state?_computeField (fun _ there => there) lists

/-- Computing the options on another account leaves an option. -/
theorem Lists.refresh_self (lists : s.Lists f e)
    (kind : f.kind = .dropdown (some (.expression source)))
    (given : e.mark = some ⟨x, .options⟩)
    (other : (s.surroundings env).needs f .options change = true →
      (s.surroundings env).optionSource f change ≠ x) : (s.refresh env f change).Lists f e := by
  obtain ⟨state, found, there⟩ := lists
  refine ⟨_, state?_refresh_self found, ?_⟩
  rw [Surroundings.mem_options_refresh kind given, Surroundings.newOptions]
  split
  · rename_i needed
    refine OptionSet.mem_merge_of_mem there ?_
    rw [given]
    rintro ⟨⟩
    exact other needed rfl
  · exact there

/-- The computation of a field that the options do not refer to leaves what their expression
gives. -/
theorem Fits.reads_refresh_unread (fits : s.Fits form g) (h : g.Represents form)
    (member : f ∈ form.fields) (kind : f.kind = .dropdown (some (.expression source)))
    (unread : f'.id ∉ g.context f.id .options) :
    (s.refresh env f' change).reads store now source = s.reads store now source := by
  refine fits.reads_refresh fun inside mentioned => unread ?_
  exact (h.mem_context member).2 ⟨source, Field.text?_of_kind kind, inside, mentioned⟩

/-! ## Waves -/

/-- The options are computed on the account of the first of the changed fields they refer to. -/
theorem Fits.optionSource_of_needs (fits : s.Fits form g) {changed : List String}
    {trigger : String}
    (needed : (s.surroundings env).needs f .options (.others changed trigger) = true) :
    (g.context f.id .options).find? (changed.contains ·) =
      some ((s.surroundings env).optionSource f (.others changed trigger)) := by
  have graph : (s.surroundings env).graph = g := fits.ofGraph
  obtain ⟨x, referred, met⟩ := fits.needs_iff.1 needed
  obtain ⟨y, found⟩ := Option.isSome_iff_exists.1
    (List.find?_isSome.2 ⟨x, referred, List.contains_iff_mem.2 met⟩)
  rw [Surroundings.optionSource, graph, found]
  rfl

/-- On whose accounts options come in is followed on nothing: no computation but the field's own
brings them in. -/
theorem follows_accounts (h : g.Represents form) (member : f ∈ form.fields)
    (kind : f.kind = .dropdown (some (.expression source))) (steady : f.Steady store .options)
    (accounts : String → Prop) :
    Follows (fun env => env.store = store) (g.Accounted f accounts) form g f []
      fun s => s.Offers f fun y _ => accounts y where
  sources := fun _ absurd => by cases absurd
  timeless := fun _ _ offers => offers
  others := fun _ _ _ _ _ _ differs _ offers => offers.refresh_other differs
  renewed := by
    rintro s env changed trigger - - - ⟨x, absurd, -⟩
    cases absurd
  kept := by
    rintro s ⟨store', now⟩ changed trigger rfl admitted fits - offers
    cases needed : (s.surroundings ⟨store', now⟩).needs f .options (.others changed trigger) with
    | false => exact offers.refresh_self fits member kind needed
    | true =>
      obtain ⟨state, present, all⟩ := offers
      have account := admitted _ (fits.optionSource_of_needs needed)
      refine fits.offers_of_needs h member kind steady needed ?_ fun _ _ => account
      intro old found e among y given _
      cases present.symm.trans found
      exact all e among y given

/-- **An option stays while the options are computed on other accounts.** -/
theorem follows_lists (g : Graph) (form : Definition)
    (kind : f.kind = .dropdown (some (.expression source)))
    (given : e.mark = some ⟨x, .options⟩) :
    Follows (fun env => env.store = store) (g.Accounted f (· ≠ x)) form g f []
      fun s => s.Lists f e where
  sources := fun _ absurd => by cases absurd
  timeless := fun _ _ lists => lists
  others := fun _ _ _ _ _ _ differs _ lists => lists.refresh_other differs
  renewed := by
    rintro s env changed trigger - - - ⟨y, absurd, -⟩
    cases absurd
  kept := by
    rintro s env changed trigger - admitted fits - lists
    refine lists.refresh_self kind given fun needed => ?_
    exact admitted _ (fits.optionSource_of_needs needed)

/-- **What is offered on account of `x` is followed on what the options refer to**, as long as they
are computed on its account only. -/
theorem follows_offered (h : g.Represents form) (member : f ∈ form.fields)
    (kind : f.kind = .dropdown (some (.expression source))) (steady : f.Steady store .options)
    (x : String) (now : Calendar.Instant) :
    Follows (fun env => env.store = store) (g.Accounted f (· = x)) form g f
      (g.context f.id .options) fun s => s.Offers f fun y v =>
        y = x → v ∈ Surroundings.optionValues (s.reads store now source) where
  sources := by
    intro y referred
    refine h.edge_of_mem_context referred ?_
    rintro rfl
    exact steady.foreign h member referred
  timeless := fun _ _ offers => offers
  others := by
    rintro s env f' change - fits differs unread offers
    rw [fits.reads_refresh_unread h member kind unread]
    exact offers.refresh_other differs
  renewed := by
    rintro s ⟨store', now'⟩ changed trigger rfl admitted fits met
    have needed : (s.surroundings ⟨store', now'⟩).needs f .options (.others changed trigger) =
        true :=
      fits.needs_iff.2 met
    have source := admitted _ (fits.optionSource_of_needs needed)
    rw [fits.reads_refresh_self steady (Field.text?_of_kind kind) now now']
    refine fits.offers_of_needs h member kind steady needed ?_ fun v listed _ => listed
    exact fun _ _ e _ y _ other same => absurd (same.trans source.symm) other
  kept := by
    rintro s ⟨store', now'⟩ changed trigger rfl - fits unmet offers
    rw [fits.reads_refresh_self steady (Field.text?_of_kind kind) now now]
    refine offers.refresh_self fits member kind (Bool.eq_false_iff.2 fun needed => unmet ?_)
    exact fits.needs_iff.1 needed

/-! ## The first computation -/

/-- What the expression of the options gave are just these values, but for an empty one, all on
account of `x`. -/
structure Enumerates (s : Session) (f : Field) (x : String) (values : List String) : Prop where
  offers : s.Offers f fun y v => y = x ∧ v ∈ values
  lists : ∀ v ∈ values, v.isEmpty = false → s.Lists f ⟨v, some ⟨x, .options⟩⟩

theorem Enumerates.computeField_other {values : List String} (all : s.Enumerates f x values)
    (differs : f'.id ≠ f.id) : (s.computeField env f').Enumerates f x values where
  offers := (all.offers.refresh_other differs).computeField
  lists := fun v listed filled => ((all.lists v listed filled).refresh_other differs).computeField

/-- A field that has no options yet gets those that its expression gives, on account of the first
field that they refer to. -/
theorem Fits.enumerates_computeField (fits : s.Fits form g) (h : g.Represents form)
    (member : f ∈ form.fields) (kind : f.kind = .dropdown (some (.expression source)))
    (steady : f.Steady store .options) (created : s.state? f.id = some (FieldState.created f))
    (now : Calendar.Instant) :
    (s.computeField ⟨store, now⟩ f).Enumerates f (((form.referred .options f).head?).getD f.id)
      (Surroundings.optionValues (s.reads store now source)) := by
  have reads := fits.readsAs h ⟨store, now⟩ member fun raw given => (steady raw given).1
  have graph : (s.surroundings ⟨store, now⟩).graph = g := fits.ofGraph
  have merged : (s.surroundings ⟨store, now⟩).newOptions f .initial source (FieldState.created f) =
      OptionSet.merge {} ⟨((form.referred .options f).head?).getD f.id, .options⟩
        (Surroundings.optionValues (s.reads store now source)) := by
    have none : (FieldState.created f).options = {} := by
      rw [FieldState.created, kind]
    rw [Surroundings.newOptions, Surroundings.needs, if_pos rfl,
      reads source (Field.text?_of_kind kind), none, Surroundings.optionSource, graph,
      h.context_eq member]
    rintro _ _ ⟨⟩
  have options_iff {e : Entry} {y : String} (given : e.mark = some ⟨y, .options⟩) :
      e ∈ (s.computed ⟨store, now⟩ f .initial).own.options.entries ↔
        e ∈ (OptionSet.merge {} ⟨((form.referred .options f).head?).getD f.id, .options⟩
          (Surroundings.optionValues (s.reads store now source))).entries := by
    rw [computed, created, Option.getD_some, Surroundings.mem_options_refresh kind given, merged]
  have found : (s.refresh ⟨store, now⟩ f .initial).state? f.id =
      some (s.computed ⟨store, now⟩ f .initial).own := by
    rw [state?_refresh, created, Option.map_some, if_pos rfl]
  constructor
  · refine Offers.computeField ⟨_, found, fun e among y given => ?_⟩
    rcases OptionSet.of_mem_merge ((options_iff given).1 among) with ⟨before, -⟩ | ⟨mark, listed⟩
    · cases before
    · cases given.symm.trans mark
      exact ⟨rfl, listed⟩
  · intro v listed filled
    refine Lists.computeField ⟨_, found, ?_⟩
    exact (options_iff rfl).2 ((OptionSet.mem_merge_empty_iff rfl filled).2 listed)

/-- **After the first computation** the options that the expression gave are its current values, all
on account of the first field that they refer to. -/
theorem enumerates_computeAll (h : g.Represents form) (fits : s.Fits form g)
    (member : f ∈ form.fields) (kind : f.kind = .dropdown (some (.expression source)))
    (steady : f.Steady store .options) (created : s.state? f.id = some (FieldState.created f))
    (first now : Calendar.Instant) :
    (s.computeAll ⟨store, first⟩).Enumerates f (((form.referred .options f).head?).getD f.id)
      (Surroundings.optionValues ((s.computeAll ⟨store, first⟩).reads store now source)) := by
  refine computeAll_brings (B := fun t => t.state? f.id = some (FieldState.created f))
    (Q := fun t => t.Enumerates f (((form.referred .options f).head?).getD f.id)
      (Surroundings.optionValues (t.reads store now source))) h fits ⟨store, first⟩ member
    (fun t f' fits differs present => ?_) (fun t fits present => ?_)
    (fun t f' fits differs apart all => ?_) created
  · rw [state?_computeField, state?_refresh, present, Option.map_some, Option.map_some,
      if_neg (Ne.symm differs), if_neg (Ne.symm differs)]
  · rw [reads_computeField, fits.reads_refresh_self steady (Field.text?_of_kind kind) now first]
    exact fits.enumerates_computeField h member kind steady present first
  · have unread : f'.id ∉ g.context f.id .options :=
      fun referred => apart (h.edge_of_mem_context referred differs)
    rw [reads_computeField, fits.reads_refresh_unread h member kind unread]
    exact all.computeField_other differs

/-! ## Settled dropdowns -/

section Settled

variable {steps : List (Calendar.Instant × Action)} {accounts : String → Prop}

/-- What starts on some accounts has the options computed on these. -/
theorem admits_accounts (h : g.Represents form) (member : f ∈ form.fields)
    (foreign : f.id ∉ g.context f.id .options)
    (ordinary : ∀ step ∈ steps, ∀ id trigger, step.2 ≠ .sourceChanged id trigger)
    (only : ∀ o, (o ∈ s.waiting ∨ ∃ step ∈ steps, ∃ raw, step.2 = .edit o raw) →
      ∀ y, form.Accounts o f y → accounts y) :
    ∀ o, (o ∈ s.waiting ∨ ∃ step ∈ steps, step.2.origin? = some o) →
      g.Admits (g.Accounted f accounts) f.id o := by
  intro o starts changed turn y found
  refine only o (starts.imp_right ?_) y (h.accounts_of_find? member foreign turn found)
  rintro ⟨step, inside, origin⟩
  exact ⟨step, inside, Action.edit_of_origin? origin (ordinary step inside)⟩

/-- Options keep to some accounts in a run on these. -/
theorem Fits.accounts_run (fits : s.Fits form g) (h : g.Represents form) (member : f ∈ form.fields)
    (kind : f.kind = .dropdown (some (.expression source))) (steady : f.Steady store .options)
    (ordinary : ∀ step ∈ steps, ∀ id trigger, step.2 ≠ .sourceChanged id trigger)
    (only : ∀ o, (o ∈ s.waiting ∨ ∃ step ∈ steps, ∃ raw, step.2 = .edit o raw) →
      ∀ y, form.Accounts o f y → accounts y)
    (offers : s.Offers f fun y _ => accounts y)
    (idle : (s.run store steps).schedule.isIdle = true) :
    (s.run store steps).Offers f fun y _ => accounts y := by
  have inv := (follows_accounts h member kind steady accounts).run
    (Definition.field?_of_mem h.unique member) h fits
    (fun _ _ _ _ u fits offers => offers.refresh_self fits member kind rfl)
    (admits_accounts h member (steady.foreign h member) ordinary only)
    (fun step inside _ changes => absurd changes (ordinary step inside _ _)) (Or.inl offers)
  exact inv.resolve_right (not_owes_of_isIdle idle)

/-- An option stays in a run on other accounts. -/
theorem Fits.lists_run (fits : s.Fits form g) (h : g.Represents form) (member : f ∈ form.fields)
    (kind : f.kind = .dropdown (some (.expression source)))
    (foreign : f.id ∉ g.context f.id .options)
    (ordinary : ∀ step ∈ steps, ∀ id trigger, step.2 ≠ .sourceChanged id trigger)
    (only : ∀ o, (o ∈ s.waiting ∨ ∃ step ∈ steps, ∃ raw, step.2 = .edit o raw) →
      ∀ y, form.Accounts o f y → y ≠ x)
    (given : e.mark = some ⟨x, .options⟩) (lists : s.Lists f e)
    (idle : (s.run store steps).schedule.isIdle = true) : (s.run store steps).Lists f e := by
  have follows : Follows (fun env => env.store = store) (g.Accounted f (· ≠ x)) form g f []
      fun s => s.Lists f e := follows_lists g form kind given
  have inv := follows.run (Definition.field?_of_mem h.unique member) h fits
    (fun _ _ _ _ _ _ lists => lists.refresh_self kind given (by rintro ⟨⟩))
    (admits_accounts h member foreign ordinary only)
    (fun step inside _ changes => absurd changes (ordinary step inside _ _)) (Or.inl lists)
  exact inv.resolve_right (not_owes_of_isIdle idle)

/-- **What is offered on account of `x` is current again when nothing waits**, after a run on its
account only: if it was so before, or the run starts with an edit on its account. -/
theorem Fits.offered_run (fits : s.Fits form g) (h : g.Represents form) (member : f ∈ form.fields)
    (kind : f.kind = .dropdown (some (.expression source))) (steady : f.Steady store .options)
    (ordinary : ∀ step ∈ steps, ∀ id trigger, step.2 ≠ .sourceChanged id trigger)
    (only : ∀ o, (o ∈ s.waiting ∨ ∃ step ∈ steps, ∃ raw, step.2 = .edit o raw) →
      ∀ y, form.Accounts o f y → y = x)
    (since : (s.Offers f fun y v =>
        y = x → v ∈ Surroundings.optionValues (s.reads store now source)) ∨
      ∃ edited o raw rest, steps = (edited, .edit o raw) :: rest ∧ form.Accounts o f x)
    (idle : (s.run store steps).schedule.isIdle = true) :
    (s.run store steps).Offers f fun y v =>
      y = x → v ∈ Surroundings.optionValues ((s.run store steps).reads store now source) := by
  have follows := follows_offered h member kind steady x now
  have known := Definition.field?_of_mem h.unique member
  have admits := admits_accounts h member (steady.foreign h member) ordinary only
  have own {u : Session} {now' : Calendar.Instant} {raw : String} (fits : u.Fits form g)
      (offers : u.Offers f fun y v =>
        y = x → v ∈ Surroundings.optionValues (u.reads store now source)) :
      (u.refresh ⟨store, now'⟩ f (.user raw)).Offers f fun y v =>
        y = x → v ∈ Surroundings.optionValues
          ((u.refresh ⟨store, now'⟩ f (.user raw)).reads store now source) := by
    rw [fits.reads_refresh_self steady (Field.text?_of_kind kind) now now]
    exact offers.refresh_self fits member kind rfl
  rcases since with offers | ⟨edited, o, raw, rest, rfl, account⟩
  · have inv := follows.run known h fits (fun _ _ _ _ _ fits offers => own fits offers) admits
      (fun step inside _ changes => absurd changes (ordinary step inside _ _)) (Or.inl offers)
    exact inv.resolve_right (not_owes_of_isIdle idle)
  · obtain ⟨f', there⟩ := Definition.exists_field?_of_accounts h member account
    obtain ⟨-, rfl⟩ := Definition.mem_of_field? there
    have inv := follows.run_edit known h fits there (fun _ _ _ _ _ fits offers => own fits offers)
      admits
      (fun step inside _ changes =>
        absurd changes (ordinary step (List.mem_cons_of_mem _ inside) _ _))
      (Or.inr (h.brings_of_accounts member (steady.foreign h member) account))
    exact inv.resolve_right (not_owes_of_isIdle idle)

/-- **Which options of a settled dropdown are current.** All that the expression gave are among its
current values if every edit that concerns the options does so on account of the first field that
they refer to. Of the options on account of `x` this is so, counting from the first computation or
from an edit on account of `x`, if every wave that waits and every edit are on account of `x` or do
not concern the options. -/
theorem offered_of_accounts {debounce : Nat} {t : Session} (opened : start form debounce = .ok s)
    (foreign : ∀ f ∈ form.fields, ¬ f.Mentions f.id)
    (free : ∀ f ∈ form.fields, ∀ p ∈ f.sources, Template.ClockFree store p.2)
    (first : Calendar.Instant)
    (ordinary : ∀ step ∈ steps, ∀ id trigger, step.2 ≠ .sourceChanged id trigger)
    (ran : t = (s.computeAll ⟨store, first⟩).run store steps) (idle : t.schedule.isIdle = true)
    (now : Calendar.Instant) (member : f ∈ form.fields)
    (kind : f.kind = .dropdown (some (.expression source))) :
    ∃ state, t.state? f.id = some state ∧
      ((∀ step ∈ steps, ∀ o raw, step.2 = .edit o raw → ∀ y, form.Accounts o f y →
          (form.referred .options f).head? = some y) →
        ∀ e ∈ state.options.entries, ∀ y, e.mark = some ⟨y, .options⟩ →
          e.value ∈ Surroundings.optionValues (t.reads store now source)) ∧
      ∀ before after x, steps = before ++ after →
        (before = [] ∨ ∃ edited o raw rest, after = (edited, .edit o raw) :: rest ∧
          form.Accounts o f x) →
        (∀ o, (o ∈ ((s.computeAll ⟨store, first⟩).run store before).waiting ∨
          ∃ step ∈ after, ∃ raw, step.2 = .edit o raw) → ∀ y, form.Accounts o f y → y = x) →
        ∀ e ∈ state.options.entries, e.mark = some ⟨x, .options⟩ →
          e.value ∈ Surroundings.optionValues (t.reads store now source) := by
  subst ran
  have h := Graph.represents_of_ok (start_ok opened).2.1
  have steady : f.Steady store .options := by
    intro raw given
    have source : (.options, raw) ∈ f.sources := Field.mem_sources.2 given
    exact ⟨fun mentioned => foreign f member ⟨(.options, raw), source, mentioned⟩,
      free f member (.options, raw) source⟩
  have initially := (enumerates_computeAll h (fits_start opened) member kind steady
    (state?_start opened h.unique member) first now).offers
  have fits := (fits_start opened).computeAll ⟨store, first⟩
  obtain ⟨state, found⟩ := (fits.run store steps).state? (List.mem_map_of_mem member)
  refine ⟨state, found, fun single e among y given => ?_,
    fun before after x split since accounts e among given => ?_⟩
  · have only : ∀ o, (o ∈ (s.computeAll ⟨store, first⟩).waiting ∨
        ∃ step ∈ steps, ∃ raw, step.2 = .edit o raw) → ∀ y, form.Accounts o f y →
          y = ((form.referred .options f).head?).getD f.id := by
      rintro o (waits | ⟨step, inside, raw, edits⟩) y account
      · rw [waiting_of_isIdle (isIdle_computeAll opened _)] at waits
        cases waits
      · rw [single step inside o raw edits y account]
        rfl
    obtain ⟨state', found', marked⟩ := fits.accounts_run h member kind steady ordinary only
      (initially.imp fun _ _ good => good.1) idle
    cases found.symm.trans found'
    obtain ⟨state', found', current⟩ := fits.offered_run h member kind steady ordinary only
      (Or.inl (initially.imp fun _ _ good _ => good.2)) idle
    cases found.symm.trans found'
    exact current e among y given (marked e among y given)
  · subst split
    rw [run_append] at idle found ⊢
    have current := (fits.run store before).offered_run h member kind steady
      (fun step inside => ordinary step (List.mem_append_right _ inside)) accounts
      (since.imp_left fun none => by
        subst none
        exact initially.imp fun _ _ good _ => good.2) idle
    obtain ⟨state', found', current⟩ := current
    cases found.symm.trans found'
    exact current e among x given rfl

end Settled

/-! ## An example -/

def firstName : Field :=
  { id := "first", label := "First", kind := .text, content := some (.fixed "Ann") }

def lastName : Field :=
  { id := "last", label := "Last", kind := .text, content := some (.fixed "Lee") }

def fullName : Field :=
  { id := "name", label := "Name", kind := .dropdown (some (.expression "{{$$.first + $$.last}}")) }

def person : Definition := { title := "Person", fields := [firstName, lastName, fullName] }

theorem firstName_mem : firstName ∈ person.fields := List.mem_cons_self

theorem lastName_mem : lastName ∈ person.fields := List.mem_cons_of_mem _ List.mem_cons_self

theorem fullName_mem : fullName ∈ person.fields :=
  List.mem_cons_of_mem _ (List.mem_cons_of_mem _ List.mem_cons_self)

theorem start_person : ∃ s, start person defaultDebounce = .ok s :=
  exists_ok_of_isSome (by decide +kernel)

open Script in
/-- Two texts with a plus between them read as their sum. -/
theorem reads_plus (a b : List Char) :
    ReadsExpression [.string a, .plus, .string b]
      (.strict .add (.literal (.string (String.ofList a)))
        (.literal (.string (String.ofList b)))) [] := by
  have ended {level : Nat} : Stops level [] := fun t absurd => by cases absurd
  have plus : Stops 6 [.plus, .string b] := by
    rintro t ⟨⟩
    refine ⟨rfl, fun level above => ?_⟩
    unfold operator?
    split <;> first | rfl | omega | contradiction
  have left : ReadsUnary [.string a, .plus, .string b] (.literal (.string (String.ofList a)))
      [.plus, .string b] :=
    .operand rfl .string (plus.accesses _)
  have right : ReadsUnary [.string b] (.literal (.string (String.ofList b))) [] :=
    .operand rfl .string (.done fun t absurd => by cases absurd)
  have sum : ReadsBinary 5 [.string a, .plus, .string b]
      (.strict .add (.literal (.string (String.ofList a)))
        (.literal (.string (String.ofList b)))) [] :=
    .chain (by decide) (left.binary plus) (.more rfl (right.binary ended) (ended.operands _))
  -- The looser operators find nothing to join.
  have loose {level : Nat} (inside : level ≤ 5) : ReadsBinary level [.string a, .plus, .string b]
      (.strict .add (.literal (.string (String.ofList a)))
        (.literal (.string (String.ofList b)))) [] := by
    induction inside using Nat.decreasingInduction with
    | self => exact sum
    | of_succ level below ih =>
      exact .chain (Nat.lt_trans below (by decide)) ih (ended.operands _)
  exact .plain rfl (loose (Nat.zero_le 5)) (by simp)

open Script Template in
/-- Whatever the fields hold, the expression is the sum of two texts. -/
theorem parse_sum (store : DocumentStore) (context : Context) :
    parse (resolvedText store context "{{$$.first + $$.last}}") =
      .ok (.strict .add (.literal (.string (String.ofList (fieldValue context "first".toList))))
        (.literal (.string (String.ofList (fieldValue context "last".toList))))) := by
  have inner : (Parts.ofText "{{$$.first + $$.last}}".toList).expression =
      "$$.first + $$.last".toList := by
    decide +kernel
  have none : names (documentCuts "$$.first + $$.last".toList) = [] := by
    decide +kernel
  have cuts : fieldCuts "$$.first + $$.last".toList =
      [.reference "first".toList, .text " + ".toList, .reference "last".toList] := by
    decide +kernel
  have plus : tokens? " + ".toList = some [.plus] := by
    decide +kernel
  have fragments : Fragmented (fieldCuts "$$.first + $$.last".toList) := by
    intro s among
    rw [cuts] at among
    simp only [List.mem_cons, Cut.text.injEq, List.not_mem_nil, or_false, reduceCtorEq,
      false_or] at among
    rw [among, plus]
    rfl
  have tokens := (lexes_quoteFields context fragments).tokens?
  rw [cuts] at tokens
  have shape : List.flatMap (cutTokens context)
      [.reference "first".toList, .text " + ".toList, .reference "last".toList] =
      [.string (fieldValue context "first".toList), .plus,
        .string (fieldValue context "last".toList)] := by
    simp only [List.flatMap_cons, List.flatMap_nil, cutTokens, plus]
    rfl
  rw [shape] at tokens
  unfold resolvedText
  rw [inner, resolve_eq_quoteFields store context none]
  exact parse_eq_ok_iff.2 ⟨_, tokens, reads_plus _ _⟩

/-- The full name reads as the first name and the last name. -/
theorem reads_sum {a b : String} (first : s.value? "first" = some a)
    (last : s.value? "last" = some b) :
    s.reads store now "{{$$.first + $$.last}}" = .string (a ++ b) := by
  have valued (v w : String) : (Script.Expr.strict .add (.literal (.string v))
      (.literal (.string w))).value now = .ok (.string (String.ofList (v.toList ++ w.toList))) :=
    rfl
  rw [reads, Template.valueOfText_of_parse (by decide +kernel) (by decide +kernel)
    (parse_sum store s.value?) (valued _ _)]
  simp [Template.fieldValue, first, last]

/-- The full name refers to the first and the last name, and nothing else refers to anything. -/
theorem mem_sources_person (member : f ∈ person.fields) {p : PropertyName × String}
    (source : p ∈ f.sources) : f = fullName ∧ p = (.options, "{{$$.first + $$.last}}") := by
  have each : ∀ f ∈ person.fields, ∀ p ∈ f.sources,
      f = fullName ∧ p = (.options, "{{$$.first + $$.last}}") := by
    decide
  exact each f member p source

theorem mentions_sum {id : String} :
    Template.Mentions "{{$$.first + $$.last}}".toList id.toList ↔ id = "first" ∨ id = "last" := by
  have read : Template.referencedFields "{{$$.first + $$.last}}".toList = ["first", "last"] := by
    decide +kernel
  rw [← Template.mem_referencedFields, read]
  simp

theorem foreign_person : ∀ f ∈ person.fields, ¬ f.Mentions f.id := by
  rintro f member ⟨p, source, mentioned⟩
  obtain ⟨rfl, rfl⟩ := mem_sources_person member source
  rcases mentions_sum.1 mentioned with same | same
  · exact absurd same (by decide)
  · exact absurd same (by decide)

theorem clockFree_person : ∀ f ∈ person.fields, ∀ p ∈ f.sources, Template.ClockFree store p.2 := by
  intro f member p source context e parsed
  obtain ⟨-, rfl⟩ := mem_sources_person member source
  rw [parse_sum] at parsed
  cases parsed
  rfl

theorem steady_fullName : fullName.Steady store .options := by
  intro raw text
  have source : (.options, raw) ∈ fullName.sources := Field.mem_sources.2 text
  exact ⟨fun mentioned => foreign_person fullName fullName_mem ⟨(.options, raw), source, mentioned⟩,
    clockFree_person fullName fullName_mem (.options, raw) source⟩

/-- Every edit of a name has the full name computed on its own account. -/
theorem eq_of_accounts (accounts : person.Accounts o fullName y) : o = y := by
  obtain ⟨before, after, shape, path, -⟩ := accounts
  have referred : person.referred .options fullName = ["first", "last"] := by
    decide +kernel
  have among : y ∈ ["first", "last"] := by
    rw [← referred, shape]
    exact List.mem_append_right _ List.mem_cons_self
  cases path with
  | refl => rfl
  | tail path edge =>
    obtain ⟨-, -, f, member, rfl, p, source, -⟩ := edge
    obtain ⟨rfl, -⟩ := mem_sources_person member source
    exact absurd among (by decide)

/-- Nothing feeds the first and the last name. -/
theorem spares_person (member : f ∈ person.fields) (plain : f ≠ fullName) : person.Spares o f := by
  rintro x ⟨-, -, p, source, -⟩ -
  exact plain (mem_sources_person member source).1

/-- At first the names are those that the form gives. -/
theorem names_computeAll (h : g.Represents person) (fits : s.Fits person g)
    (store : DocumentStore) :
    (s.computeAll ⟨store, 0⟩).Holds firstName "Ann" ∧
      (s.computeAll ⟨store, 0⟩).Holds lastName "Lee" := by
  have shown (f : Field) (member : f ∈ person.fields) (plain : f ≠ fullName) :
      (s.computeAll ⟨store, 0⟩).Shows store 0 f .value := by
    refine shows_computeAll h fits 0 0 member fun raw text => ?_
    exact absurd (mem_sources_person member (Field.mem_sources.2 text)).1 plain
  exact ⟨(shown firstName firstName_mem (by decide)).holds rfl {} rfl,
    (shown lastName lastName_mem (by decide)).holds rfl {} rfl⟩

/-- After an edit of the first name its full name is all that is offered. -/
theorem offered_of_accounts_person : ∃ s, start person defaultDebounce = .ok s ∧
    ∀ (store : DocumentStore) (t : Session),
      t = (s.computeAll ⟨store, 0⟩).run store [(0, .edit "first" "Bo"), (0, .settle)] →
      t.schedule.isIdle = true ∧ ∃ state, t.state? "name" = some state ∧
        ∀ e ∈ state.options.entries, ∀ y, e.mark = some ⟨y, .options⟩ →
          e.value ∈ Surroundings.optionValues (t.reads store 0 "{{$$.first + $$.last}}") := by
  obtain ⟨s, started⟩ := start_person
  refine ⟨s, started, ?_⟩
  intro store t ran
  have first := (fits_start started).computeAll ⟨store, 0⟩
  have idle : t.schedule.isIdle = true := by
    rw [ran]
    exact (first.act (.edit "first" "Bo")).isIdle_settle ⟨store, 0⟩
  obtain ⟨state, found, single, -⟩ := offered_of_accounts started foreign_person clockFree_person
    0 (by simp) ran idle 0 fullName_mem rfl
  refine ⟨idle, state, found, single ?_⟩
  intro step inside o raw edits y account
  rw [← eq_of_accounts account, (Action.eq_of_edit_settle inside edits).1]
  decide +kernel

/-- After an edit of the last name the old full name is still offered, on account of the first. -/
theorem ghost_person : ∃ s, start person defaultDebounce = .ok s ∧
    (∀ f ∈ person.fields, ¬ f.Mentions f.id) ∧
    ∀ store, (∀ f ∈ person.fields, ∀ p ∈ f.sources, Template.ClockFree store p.2) ∧
      ∀ t, t = (s.computeAll ⟨store, 0⟩).run store [(0, .edit "last" "Li"), (0, .settle)] →
        t.schedule.isIdle = true ∧ ∃ state e y, t.state? "name" = some state ∧
          e ∈ state.options.entries ∧ e.mark = some ⟨y, .options⟩ ∧
          e.value ∉ Surroundings.optionValues (t.reads store 0 "{{$$.first + $$.last}}") := by
  obtain ⟨s, started⟩ := start_person
  refine ⟨s, started, foreign_person, fun store => ⟨clockFree_person, ?_⟩⟩
  intro t ran
  have h := Graph.represents_of_ok (start_ok started).2.1
  have opened := fits_start started
  have first := opened.computeAll ⟨store, 0⟩
  have nothing := isIdle_computeAll started ⟨store, 0⟩
  have idle : t.schedule.isIdle = true := by
    rw [ran]
    exact (first.act (.edit "last" "Li")).isIdle_settle ⟨store, 0⟩
  have steady : fullName.Steady store .options := steady_fullName
  obtain ⟨ann, lee⟩ := names_computeAll h opened store
  -- At first the full name is that of Ann Lee.
  have offered : (s.computeAll ⟨store, 0⟩).Lists fullName ⟨"AnnLee", some ⟨"first", .options⟩⟩ := by
    have all := enumerates_computeAll h opened fullName_mem rfl steady
      (state?_start started h.unique fullName_mem) 0 0
    have referred : ((person.referred .options fullName).head?).getD fullName.id = "first" := by
      decide +kernel
    rw [reads_sum ann.value? lee.value?, referred] at all
    exact all.lists "AnnLee" List.mem_cons_self rfl
  -- The edit has the options computed on account of the last name, so this one stays.
  have lists : t.Lists fullName ⟨"AnnLee", some ⟨"first", .options⟩⟩ := by
    rw [ran] at idle ⊢
    refine first.lists_run h fullName_mem rfl (steady.foreign h fullName_mem) (by simp) ?_ rfl
      offered idle
    intro o starts y account same
    rw [← eq_of_accounts account, eq_of_edit_settle nothing starts] at same
    exact absurd same (by decide)
  -- The full name is that of Ann Li now.
  have given : t.value? "last" = some "Li" := by
    rw [ran]
    exact (first.holds_edit_settle h lastName_mem nothing rfl fun _ => rfl).value?
  have kept : t.value? "first" = some "Ann" := by
    rw [ran]
    exact (ann.edit_settle first h firstName_mem nothing (by decide)
      (spares_person firstName_mem (by decide))).value?
  obtain ⟨state, found, offered⟩ := lists
  refine ⟨idle, state, _, "first", found, offered, rfl, ?_⟩
  rw [reads_sum kept given]
  decide

end Session

end Formulary.Form
