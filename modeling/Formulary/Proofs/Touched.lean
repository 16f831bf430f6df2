import Formulary.Proofs.LevelOrder
import Formulary.Proofs.Offered
import Formulary.Proofs.Refused
import Formulary.Proofs.Told

/-!
# What an edit touches

An edit computes its field, and then its wave computes every field that depends on it, once, at a
moment at which the field is still as it was (`Fits.turned_propagate`). Such a computation goes by
what has changed, and at the turn of a field this is all that the edited field reaches
(`needs_iff_reaches`). So an edit leaves every other field, and of a field that depends on it every
property that reads nothing which does (`edit_touches`).
-/

namespace Formulary.Form

open Relation (TransGen)

/-- An update of the value. -/
def Update.isValue : Update → Bool
  | .value .. => true
  | _ => false

theorem Update.isChoice_of_isValue {u : Update} (told : u.isValue = true) : u.isChoice = true := by
  cases u with
  | value id value => rfl
  | _ => cases told

/-- What may differ in the state of a field that depends on `o` after an edit of `o`: the properties
that read `o` or something which depends on it, and the value of a dropdown that has dropped out of
its options. -/
structure Definition.Touches (form : Definition) (o : String) (d : Field) (old new : FieldState) :
    Prop where
  initialized : new.initialized = old.initialized
  value : new.value = old.value ∨ form.Reaches o .value d ∨
    d.kind.isDropdown = true ∧ old.value ≠ "" ∧ old.value ∉ new.options.values
  options : new.options = old.options ∨ form.Reaches o .value d ∨ form.Reaches o .options d
  limits : ∀ name, new.limits.of? name = old.limits.of? name ∨ form.Reaches o name d
  placeholder : new.placeholder = old.placeholder ∨ form.Reaches o .placeholder d
  description : new.description = old.description ∨ form.Reaches o .description d
  visibility : new.hidden = old.hidden ∧ new.required = old.required ∨ form.Reaches o .hide d

variable {form : Definition} {g : Graph} {f d : Field} {o : String} {old : FieldState}
  {changed : List String} {trigger : String}

/-! ## The wave that waits -/

/-- Of an idle schedule a request is all that starts. -/
theorem Schedule.exists_settle_request {schedule : Schedule String}
    (idle : schedule.isIdle = true) (id : String) :
    ∃ time, ((schedule.request id id).settle Session.waveTime).1 = [⟨time, .started id⟩] := by
  have timers : (schedule.request id id).timers =
      [⟨schedule.now + schedule.delay, some id, id⟩] := by
    rw [request, List.isEmpty_iff.1 idle]
    rfl
  refine ⟨max schedule.now (schedule.now + schedule.delay), ?_⟩
  unfold settle
  rw [timers, runFrom]
  dsimp only
  rw [earliest, fired_waveTime, runFrom]
  rfl

/-! ## One computation -/

/-- What is taken in is all that is new among the options. -/
theorem OptionSet.of_mem_values_inject {options : OptionSet} {mark : Provenance}
    {value v : String} (among : v ∈ (options.inject mark value).1.values) :
    v ∈ options.values ∨ v = value := by
  unfold inject at among
  split at among
  · exact Or.inl among
  · obtain ⟨e, inside, rfl⟩ := List.mem_map.1 among
    unfold push at inside
    split at inside
    · exact Or.inl (List.mem_map_of_mem (mem_drop_iff.1 inside).1)
    · rcases List.mem_append.1 inside with old | new
      · exact Or.inl (List.mem_map_of_mem (mem_drop_iff.1 old).1)
      · exact Or.inr (by rw [List.mem_singleton.1 new])

namespace Surroundings

variable {s : Surroundings}

theorem initialized_refresh (s : Surroundings) (f : Field) (change : Change) (state : FieldState) :
    (outcome (s.refresh f change) state).own.initialized = state.initialized := by
  obtain ⟨value, options, valued, -⟩ := own_refreshValue s f change (s.valuing f change state)
  rw [own_refresh, own_refreshLimits_offered, valued, own_refreshPlaceholder,
    own_refreshDescription, own_refreshVisibility]
  rfl

/-- A value that is not computed stays, unless it has dropped out of the options. -/
theorem value_kept_or_dropped
    (unneeded : s.needs d .value (.others changed trigger) = false) :
    (outcome (s.refresh d (.others changed trigger)) old).own.value = old.value ∨
      d.kind.isDropdown = true ∧ old.value ≠ "" ∧
        old.value ∉ (outcome (s.refresh d (.others changed trigger)) old).own.options.values := by
  cases stale : hasStaleOption d { old with
      options := s.offered d (.others changed trigger) old } with
  | false => exact Or.inl (kept_of_not_proposed (not_proposes_of_not_needs unneeded stale)).1
  | true =>
    by_cases same : (outcome (s.refresh d (.others changed trigger)) old).own.value = old.value
    · exact Or.inl same
    · have proposes : s.proposed d (.others changed trigger)
          { old with options := s.offered d (.others changed trigger) old } =
            some (s.contentOf d
              { old with options := s.offered d (.others changed trigger) old }) := by
        rw [proposed, stale, Bool.or_true, if_pos rfl]
      rw [hasStaleOption, Bool.and_eq_true, Bool.and_eq_true] at stale
      obtain ⟨⟨dropdown, filled⟩, dropped⟩ := stale
      obtain ⟨taken, -, -, options⟩ := taken_of_proposed dropdown proposes
      refine Or.inr ⟨dropdown, ?_, fun among => ?_⟩
      · intro empty
        simp [empty] at filled
      · rw [options] at among
        rcases OptionSet.of_mem_values_inject among with offered | given
        · simp [OptionSet.contains, offered] at dropped
        · exact same given.symm

/-- A value is told once at most. -/
theorem countP_said_le (s : Surroundings) (f : Field) (change : Change) (state : FieldState) :
    (outcome (s.refresh f change) state).said.countP Update.isValue ≤ 1 := by
  obtain ⟨lists, only, choices⟩ := value_told_last s f change state
  have none : lists.countP Update.isValue = 0 := by
    refine List.countP_eq_zero.2 fun u among => ?_
    obtain ⟨values, rfl⟩ := only u among
    exact Bool.false_ne_true
  have counted : (outcome (s.refresh f change) state).said.countP Update.isValue =
      ((outcome (s.refresh f change) state).said.filter Update.isChoice).countP
        Update.isValue := by
    rw [List.countP_filter]
    refine List.countP_congr fun u _ => ?_
    constructor
    · intro told
      simp [told, Update.isChoice_of_isValue told]
    · intro both
      exact (Bool.and_eq_true_iff.1 both).1
  rw [counted]
  rcases choices with nothing | one
  · rw [nothing, none]
    exact Nat.zero_le 1
  · rw [one, List.countP_append, none]
    exact Nat.le_refl 1

end Surroundings

namespace Session

variable {s t u : Session} {env : Environment} {name : PropertyName} {change : Change}
  {id i : String}

/-- At its turn, a property of a field is computed just if the wave reaches what it refers to. -/
theorem Fits.needs_iff_reaches (fits : s.Fits form g) (h : g.Represents form)
    (inside : d ∈ form.fields) (turn : (g.start o).Turn changed d.id) :
    (s.surroundings env).needs d name (.others changed trigger) = true ↔ form.Reaches o name d :=
  fits.needs_iff.trans (h.meets_iff inside turn)

/-- **What the turn of a field touches.** -/
theorem Fits.touches_turn (fits : s.Fits form g) (h : g.Represents form)
    (inside : d ∈ form.fields) (turn : (g.start o).Turn changed d.id)
    (fresh : Surroundings.hasStaleOption d old = false) :
    form.Touches o d old
      (outcome ((s.surroundings env).refresh d (.others changed trigger)) old).own := by
  have renews : (s.surroundings env).Renews d (.others changed trigger) old _ :=
    Surroundings.renews_refresh old
  have unneeded {name : PropertyName} (spared : ¬ form.Reaches o name d) :
      (s.surroundings env).needs d name (.others changed trigger) = false :=
    Bool.eq_false_iff.2 fun needed => spared ((fits.needs_iff_reaches h inside turn).1 needed)
  have kept {name : PropertyName} {p : Prop}
      (same : (s.surroundings env).needs d name (.others changed trigger) = false → p) :
      p ∨ form.Reaches o name d := by
    by_cases reaches : form.Reaches o name d
    · exact Or.inr reaches
    · exact Or.inl (same (unneeded reaches))
  exact {
    initialized := Surroundings.initialized_refresh _ _ _ _
    value := by
      by_cases reaches : form.Reaches o .value d
      · exact Or.inr (Or.inl reaches)
      · exact (Surroundings.value_kept_or_dropped (unneeded reaches)).imp_right Or.inr
    options := by
      by_cases computed : form.Reaches o .value d
      · exact Or.inr (Or.inl computed)
      by_cases offered : form.Reaches o .options d
      · exact Or.inr (Or.inr offered)
      refine Or.inl (renews.kept (unneeded offered) ?_).2
      exact Surroundings.not_proposes_of_not_needs (unneeded computed) fresh
    limits := fun name => kept fun unneeded => by
      rw [renews.limits, Surroundings.newLimit?_of_not_needs unneeded]
      exact Option.map_id' ..
    placeholder := kept fun unneeded =>
      renews.placeholder.trans (Surroundings.newText_of_not_needs unneeded _ _ _)
    description := kept fun unneeded =>
      renews.description.trans (Surroundings.newText_of_not_needs unneeded _ _ _)
    visibility := kept fun unneeded => by
      rw [renews.hidden, renews.required, unneeded]
      exact ⟨rfl, rfl⟩ }

/-! ## One wave -/

/-- From `s` to `t` nothing has happened to a field: it has its state, and nothing more was told of
it. -/
structure Leaves (s t : Session) (id : String) : Prop where
  state : t.state? id = s.state? id
  told : t.told id = s.told id

theorem Leaves.refl (s : Session) (id : String) : s.Leaves s id := ⟨rfl, rfl⟩

theorem Leaves.trans (first : s.Leaves t id) (second : t.Leaves u id) : s.Leaves u id :=
  ⟨second.state.trans first.state, second.told.trans first.told⟩

theorem leaves_refresh (differs : id ≠ f.id) : s.Leaves (s.refresh env f change) id where
  state := state?_refresh_of_ne differs
  told := by rw [told_refresh, if_neg differs, List.append_nil]

theorem leaves_refreshDependent (differs : id ≠ i) :
    s.Leaves (s.refreshDependent env o changed i) id := by
  unfold refreshDependent
  cases found : s.form.field? i with
  | none => exact .refl s id
  | some f =>
    obtain ⟨-, rfl⟩ := Definition.mem_of_field? found
    exact leaves_refresh differs

/-- A wave leaves the fields that it does not come to. -/
theorem leaves_propagate (apart : id ∉ (s.graph.wave o).flatten) :
    s.Leaves (s.propagate env o) id := by
  refine spread_preserves (Q := fun t => s.Leaves t id)
    (fun o' started t changed i turn leaves => ?_) (.refl s id)
  obtain rfl := List.mem_singleton.1 started
  refine leaves.trans (leaves_refreshDependent fun same => apart ?_)
  rw [same]
  exact turn.mem_flatten

/-- On the way from `s` to `t` the wave of `o` has come to a field, which was as in `s` until then
and is as it was computed since. -/
structure Turned (form : Definition) (g : Graph) (env : Environment) (o : String) (d : Field)
    (s t : Session) : Prop where
  once : ∃ mid changed trigger, mid.Fits form g ∧ (g.start o).Turn changed d.id ∧
    s.Leaves mid d.id ∧ (mid.refresh env d (.others changed trigger)).Leaves t d.id

/-- The wave of `o` has come from `s` to `t`, with the fields `coming` still ahead: it has come to
the field, or the field is among these and is as it was. -/
structure Passing (form : Definition) (g : Graph) (env : Environment) (o : String) (d : Field)
    (s : Session) (coming : List String) (t : Session) : Prop where
  fits : t.Fits form g
  once : coming.Nodup
  stage : d.id ∈ coming ∧ s.Leaves t d.id ∨ d.id ∉ coming ∧ Turned form g env o d s t

/-- One turn. -/
theorem Passing.turn {coming : List String} (passing : Passing form g env o d s (i :: coming) t)
    (h : g.Represents form) (inside : d ∈ form.fields) (turn : (g.start o).Turn changed i) :
    Passing form g env o d s coming (t.refreshDependent env o changed i) := by
  obtain ⟨unmet, once⟩ := List.nodup_cons.1 passing.once
  refine ⟨passing.fits.refreshDependent i, once, ?_⟩
  by_cases here : d.id = i
  · subst here
    obtain ⟨-, leaves⟩ := passing.stage.resolve_right fun past => past.1 List.mem_cons_self
    have turned : t.refreshDependent env o changed d.id = t.refresh env d
        (.others changed (((t.graph.sources d.id).find? (changed.contains ·)).getD o)) := by
      unfold refreshDependent
      rw [passing.fits.ofForm, Definition.field?_of_mem h.unique inside]
    rw [turned]
    exact Or.inr ⟨unmet, t, changed, _, passing.fits, turn, leaves, .refl _ _⟩
  · have leaves : t.Leaves (t.refreshDependent env o changed i) d.id :=
      leaves_refreshDependent here
    rcases passing.stage with ⟨coming, before⟩ | ⟨past, mid, changed', trigger, facts⟩
    · exact Or.inl ⟨(List.mem_cons.1 coming).resolve_left here, before.trans leaves⟩
    · obtain ⟨fitting, turn', before, after⟩ := facts
      refine Or.inr ⟨fun later => past (List.mem_cons_of_mem _ later), ?_⟩
      exact ⟨mid, changed', trigger, fitting, turn', before, after.trans leaves⟩

/-- **A wave computes each field that depends on its origin once.** -/
theorem Fits.turned_propagate (fits : s.Fits form g) (h : g.Represents form)
    (inside : d ∈ form.fields) (path : TransGen form.Edge o d.id) :
    Turned form g env o d s (s.propagate env o) := by
  have passed : Passing form g env o d s [] (s.propagate env o) := by
    refine propagate_turns (fun t changed i coming turn passing => ?_) ?_
    · rw [wave, fits.ofGraph] at turn
      exact passing.turn h inside turn
    · rw [fits.ofGraph]
      have coming : d.id ∈ (g.wave o).flatten := h.mem_flatten_wave_iff.2 path
      exact ⟨fits, (h.sound_start o).once, Or.inl ⟨coming, .refl s d.id⟩⟩
  exact (passed.stage.resolve_left fun coming => List.not_mem_nil coming.1).2

theorem Turned.of_leaves (first : s.Leaves u d.id) (turned : Turned form g env o d u t) :
    Turned form g env o d s t := by
  obtain ⟨mid, changed, trigger, fits, turn, before, after⟩ := turned.once
  exact ⟨mid, changed, trigger, fits, turn, first.trans before, after⟩

/-- What the turn of a field has made of it. -/
theorem Turned.touches (turned : Turned form g env o d s t) (h : g.Represents form)
    (inside : d ∈ form.fields) (present : s.state? d.id = some old)
    (fresh : Surroundings.hasStaleOption d old = false) :
    ∃ new more, t.state? d.id = some new ∧ form.Touches o d old new ∧
      t.told d.id = s.told d.id ++ more ∧ more.countP Update.isValue ≤ 1 := by
  obtain ⟨mid, changed, trigger, fits, turn, before, after⟩ := turned.once
  have found : mid.state? d.id = some old := before.state.trans present
  refine ⟨_, (mid.computed env d (.others changed trigger)).said,
    after.state.trans (state?_refresh_self found), fits.touches_turn h inside turn fresh, ?_,
    Surroundings.countP_said_le ..⟩
  rw [after.told, told_refresh, if_pos rfl, before.told]

/-! ## An edit -/

section Edited

variable {raw : String} {edited settled : Environment}

section Known

variable (fits : u.Fits form g) (h : g.Represents form) (member : f ∈ form.fields)
  (idle : u.schedule.isIdle = true)

include fits h member idle

/-- **While nothing waits, an edit and the time until nothing waits again** compute the field, and
then spread the change to all fields that depend on it. -/
theorem Fits.exists_propagate (edited settled : Environment) (raw : String) :
    ∃ env w, w.Fits form g ∧ (∀ i, (u.refresh edited f (.user raw)).Leaves w i) ∧
      (u.act edited (.edit f.id raw)).act settled .settle = w.propagate env f.id := by
  rw [fits.act_edit_self h member]
  unfold Session.editField
  split
  · have user : (u.refresh edited f (.user raw)).Fits form g := fits.refresh
    have waits := user.request f.id
    obtain ⟨time, fires⟩ := Schedule.exists_settle_request idle f.id
    refine ⟨settled, _, waits.of_elapsed waits.elapsed_settle.1, fun i => ⟨rfl, rfl⟩, ?_⟩
    show Session.react settled _ ((u.schedule.request f.id f.id).settle waveTime).1 = _
    rw [fires]
    rfl
  · refine ⟨edited, _, fits.refresh, fun i => .refl _ i, settle_of_isIdle ?_⟩
    rw [propagate, schedule_spread]
    exact idle

/-- An edit leaves the fields that do not depend on its own. -/
theorem Fits.leaves_edit (differs : i ≠ f.id) (apart : ¬ TransGen form.Edge f.id i) :
    u.Leaves ((u.act edited (.edit f.id raw)).act settled .settle) i := by
  obtain ⟨env, w, fits', user, spreads⟩ := fits.exists_propagate h member idle edited settled raw
  have spared : i ∉ (w.graph.wave f.id).flatten := by
    rw [fits'.ofGraph, h.mem_flatten_wave_iff]
    exact apart
  rw [spreads]
  exact ((leaves_refresh differs).trans (user i)).trans (leaves_propagate spared)

/-- It computes each field that depends on its own once. -/
theorem Fits.turned_edit (inside : d ∈ form.fields) (path : TransGen form.Edge f.id d.id) :
    ∃ env, Turned form g env f.id d u ((u.act edited (.edit f.id raw)).act settled .settle) := by
  obtain ⟨env, w, fits', user, spreads⟩ := fits.exists_propagate h member idle edited settled raw
  have differs : d.id ≠ f.id := by
    intro same
    rw [same] at path
    exact h.acyclic f.id path
  rw [spreads]
  have turned : Turned form g env f.id d w (w.propagate env f.id) :=
    fits'.turned_propagate h inside path
  exact ⟨env, turned.of_leaves ((leaves_refresh differs).trans (user d.id))⟩

end Known

/-- **An edit touches only what depends on it.** A field that is neither the edited one nor depends
on it keeps its state, and nothing is told of it. Of one that depends on it, a value is told once at
most, and a property that reads neither the edited field nor one that depends on it stays, but for
the value of a dropdown that has dropped out of its options. -/
theorem edit_touches {debounce : Nat} (reached : u.Reached form debounce)
    (idle : u.schedule.isIdle = true)
    (ran : t = (u.act edited (.edit id raw)).act settled .settle) :
    (∀ i, i ≠ id → ¬ TransGen form.Edge id i → t.state? i = u.state? i ∧ t.told i = u.told i) ∧
      ∀ d ∈ form.fields, TransGen form.Edge id d.id →
        ∃ old new more, u.state? d.id = some old ∧ t.state? d.id = some new ∧
          form.Touches id d old new ∧
          t.told d.id = u.told d.id ++ more ∧ more.countP Update.isValue ≤ 1 := by
  obtain ⟨g, h, fits⟩ := reached.fits
  subst ran
  cases found : form.field? id with
  | none =>
    have same : (u.act edited (.edit id raw)).act settled .settle = u := by
      rw [act_edit, fits.ofForm, found]
      exact settle_of_isIdle idle
    rw [same]
    refine ⟨fun i _ _ => ⟨rfl, rfl⟩, fun d inside path => ?_⟩
    -- nothing depends on what is no field
    obtain ⟨f, known⟩ := Definition.exists_field?_of_path path.to_reflTransGen
      (List.mem_map_of_mem inside)
    rw [found] at known
    cases known
  | some f =>
    obtain ⟨member, rfl⟩ := Definition.mem_of_field? found
    constructor
    · intro i differs apart
      have leaves : u.Leaves ((u.act edited (.edit f.id raw)).act settled .settle) i :=
        fits.leaves_edit h member idle differs apart
      exact ⟨leaves.state, leaves.told⟩
    · intro d inside path
      obtain ⟨env, turned⟩ := fits.turned_edit h member idle inside path
      obtain ⟨old, present, fresh⟩ := (reached.upholds (lasts_fresh form)).fields d inside
      obtain ⟨new, more, facts⟩ := turned.touches h inside present fresh
      exact ⟨old, new, more, present, facts⟩

end Edited

/-! ## An example -/

theorem tag_mem : tag ∈ trip.fields :=
  List.mem_cons_of_mem _ (List.mem_cons_of_mem _ List.mem_cons_self)

theorem edge_city_tag : trip.Edge "city" "tag" := by
  have known : "city" ∈ trip.ids := List.mem_map_of_mem city_mem
  exact ⟨known, by decide, tag, tag_mem, rfl, (.placeholder, "{{$$.city}}"), by decide,
    mentions_city.2 rfl⟩

/-- The tag shows the city in its placeholder: an edit of the city leaves the rest of it. -/
theorem edit_touches_trip : ∃ s, start trip defaultDebounce = .ok s ∧
    ∀ (env : Environment) (u t : Session), u = s.computeAll env →
      t = (u.act env (.edit "city" "Rome")).act env .settle →
      ∃ old new more, u.state? "tag" = some old ∧ t.state? "tag" = some new ∧
        new.value = old.value ∧ new.description = old.description ∧ new.limits = old.limits ∧
        t.told "tag" = u.told "tag" ++ more ∧ more.countP Update.isValue ≤ 1 := by
  obtain ⟨s, started⟩ := start_trip
  refine ⟨s, started, ?_⟩
  intro env u t reached ran
  have idle : u.schedule.isIdle = true := by
    rw [reached]
    exact isIdle_computeAll started env
  have reached : u.Reached trip defaultDebounce := by
    rw [reached]
    exact .allComputed env (.opened started)
  have spared {name : PropertyName} (none : tag.text? name = none) :
      ¬ trip.Reaches "city" name tag := by
    intro reaches
    obtain ⟨x, ⟨-, -, raw, text, -⟩, -⟩ := reaches
    rw [none] at text
    cases text
  obtain ⟨old, new, more, present, found, touches, told, once⟩ :=
    (edit_touches reached idle ran).2 tag tag_mem (.single edge_city_tag)
  have plain : ¬ (tag.kind.isDropdown = true) := by decide
  have limits (name : PropertyName) : new.limits.of? name = old.limits.of? name := by
    refine (touches.limits name).elim id fun reaches => ?_
    cases name with
    | placeholder => rfl
    | _ => exact absurd reaches (spared rfl)
  refine ⟨old, new, more, present, found, ?_, ?_, Limits.eq_of_of? limits, told, once⟩
  · exact touches.value.resolve_right fun other =>
      other.elim (spared rfl) fun dropped => plain dropped.1
  · exact touches.description.resolve_right (spared rfl)

end Session

end Formulary.Form
