import Formulary.Proofs.LastEdit
import Formulary.Proofs.Reached
import Formulary.Proofs.Reaches
import Formulary.Proofs.Shortest

/-!
# Ranges within their limits

Whenever a range takes a value it takes it within its limits. Limits that move later do not take the
value with them: what was within stays so if whatever moves a limit computes the value too
(`Definition.Steers`).

* `hold_clamp`: a clamped text spells a number within the limits, if it spells one.
* `value_within_limits`: a settled range is within its limits if what happened since it was
  computed, or edited, steers it.
-/

namespace Formulary.Form

open Relation (ReflTransGen TransGen)

variable {form : Definition} {g : Graph} {f f' : Field} {o : String}

/-! ## Clamping -/

/-- Both limits are finite numbers. -/
def Limits.Finite (limits : Limits) : Prop :=
  limits.least.isFinite = true ∧ limits.greatest.isFinite = true

/-- If the limits leave room and the text spells a number, the number is within the limits. -/
def Limits.Hold (limits : Limits) (text : String) : Prop :=
  limits.Finite → limits.least.le limits.greatest = true →
    ∀ n, readNumber? text.toList = some n →
      limits.least.le n = true ∧ n.le limits.greatest = true

/-- **What is clamped is within the limits.** -/
theorem hold_clamp (limits : Limits) (text : String) : limits.Hold (clamp limits text) := by
  rintro ⟨least, greatest⟩ room n reads
  unfold clamp at reads
  cases spelled : readNumber? text.toList with
  | none =>
    rw [spelled] at reads
    cases spelled.symm.trans reads
  | some m =>
    rw [spelled] at reads
    dsimp only at reads
    rw [if_pos room] at reads
    have number := isFinite_of_readNumber? spelled
    have ordered := (Binary64.le_iff least greatest).1 room
    generalize held : (if m.lt limits.least = true then limits.least
      else if limits.greatest.lt m = true then limits.greatest else m) = x at reads
    have between : x.isFinite = true ∧ limits.least.toRat ≤ x.toRat ∧
        x.toRat ≤ limits.greatest.toRat := by
      rw [← held]
      split
      · exact ⟨least, le_rfl, ordered⟩
      · rename_i notLess
        split
        · exact ⟨greatest, ordered, le_rfl⟩
        · rename_i notGreater
          rw [Binary64.lt_iff number least, not_lt] at notLess
          rw [Binary64.lt_iff greatest number, not_lt] at notGreater
          exact ⟨number, notLess, notGreater⟩
    obtain ⟨y, back, finite, same⟩ := readNumber?_numberText between.1
    cases back.symm.trans reads
    rw [Binary64.le_iff least finite, Binary64.le_iff finite greatest, same]
    exact between.2

/-- A range takes every value, within its limits. -/
theorem coerce_range (least greatest step : Option (Template.Property Binary64)) (limits : Limits)
    (v : Json) :
    ∃ value, coerce (.range least greatest step) limits v = .ok value ∧ limits.Hold value := by
  unfold coerce
  split
  · have none : readNumber? "".toList = none := by decide +kernel
    refine ⟨"", rfl, fun _ _ n reads => ?_⟩
    cases none.symm.trans reads
  · exact ⟨_, rfl, hold_clamp limits _⟩

/-! ## Computing a range -/

/-- A field with limits. -/
def Kind.isRange : Kind → Bool
  | .range .. => true
  | _ => false

theorem Kind.isDropdown_of_isRange {kind : Kind} (range : kind.isRange = true) :
    kind.isDropdown = false := by
  cases kind <;> first | rfl | cases range

namespace Surroundings

variable {s : Surroundings} {change : Change} {old new : FieldState}

theorem isFinite_of_newLimit? {name : PropertyName} {limit : Option (Template.Property Binary64)}
    {state : FieldState} {x : Binary64} (set : s.newLimit? f change name limit state = some x) :
    x.isFinite = true := by
  unfold newLimit? at set
  obtain ⟨limit, -, set⟩ := Option.bind_eq_some_iff.1 set
  split at set
  · dsimp only at set
    split at set
    · rename_i finite
      rwa [← Option.some.inj set]
    · cases set
  · cases set

/-- Limits stay finite. -/
theorem Renews.finite (r : s.Renews f change old new) (finite : old.limits.Finite) :
    new.limits.Finite := by
  have kept {name : PropertyName} {x : Binary64} (finite : x.isFinite = true) :
      ((s.newLimit? f change name (f.limit? name) old).getD x).isFinite = true := by
    cases set : s.newLimit? f change name (f.limit? name) old with
    | none => exact finite
    | some y => exact isFinite_of_newLimit? set
  have least : new.limits.least = _ := Option.some.inj (r.limits .least)
  have greatest : new.limits.greatest = _ := Option.some.inj (r.limits .greatest)
  refine ⟨?_, ?_⟩
  · rw [least]
    exact kept finite.1
  · rw [greatest]
    exact kept finite.2

/-- A range that takes a value is within its limits then. -/
theorem Renews.hold_of_proposed (r : s.Renews f change old new) (range : f.kind.isRange = true)
    {v : Json} (proposed : s.proposed f change old = some v) : new.limits.Hold new.value := by
  have stored := r.value (Kind.isDropdown_of_isRange range)
  cases kind : f.kind with
  | range least greatest step =>
    obtain ⟨value, taken, hold⟩ := coerce_range least greatest step new.limits v
    rw [proposed, accepted, kind, taken] at stored
    rw [stored]
    exact hold
  | _ =>
    rw [kind] at range
    cases range

/-- A range of which neither the value nor a limit is computed is as it was. -/
theorem Renews.hold_of_not_needs (r : s.Renews f change old new) (range : f.kind.isRange = true)
    (value : s.proposed f change old = none) (least : s.needs f .least change = false)
    (greatest : s.needs f .greatest change = false) (hold : old.limits.Hold old.value) :
    new.limits.Hold new.value := by
  have sameLeast := r.limits .least
  have sameGreatest := r.limits .greatest
  have sameValue := r.value (Kind.isDropdown_of_isRange range)
  rw [newLimit?_of_not_needs least] at sameLeast
  rw [newLimit?_of_not_needs greatest] at sameGreatest
  rw [value, accepted] at sameValue
  have bounds : new.limits.least = old.limits.least ∧ new.limits.greatest = old.limits.greatest :=
    ⟨Option.some.inj sameLeast, Option.some.inj sameGreatest⟩
  unfold Limits.Hold Limits.Finite
  rw [bounds.1, bounds.2, sameValue]
  exact hold

end Surroundings

/-! ## Waves -/

/-- What has changed at the turn of a range that moves a limit of it also computes its value. -/
def Graph.Steered (g : Graph) (f : Field) (changed : List String) : Prop :=
  f.id ∉ changed ∧
    ((∃ x ∈ g.context f.id .least, x ∈ changed) ∨ (∃ x ∈ g.context f.id .greatest, x ∈ changed) →
      ∃ x ∈ g.context f.id .value, x ∈ changed)

/-- The waves of `o` that move a limit of the field also compute its value. -/
def Definition.Steers (form : Definition) (o : String) (f : Field) : Prop :=
  form.Reaches o .least f ∨ form.Reaches o .greatest f → form.Reaches o .value f

/-- Waves of the field itself do not move its limits. -/
theorem Graph.Represents.steers_self (h : g.Represents form) (member : f ∈ form.fields) :
    form.Steers f.id f := by
  have apart {name : PropertyName} : ¬ form.Reaches f.id name f := h.not_reaches_self member
  exact fun moves => absurd moves (not_or_intro apart apart)

namespace Session

variable {s : Session} {env : Environment} {change : Change}

/-- The limits of the field hold its value. -/
def InLimits (s : Session) (f : Field) : Prop :=
  ∃ state, s.state? f.id = some state ∧ state.limits.Hold state.value

theorem InLimits.refresh_other (inside : s.InLimits f) (differs : f'.id ≠ f.id) :
    (s.refresh env f' change).InLimits f := by
  obtain ⟨state, found, hold⟩ := inside
  refine ⟨state, ?_, hold⟩
  rw [state?_refresh_of_ne (Ne.symm differs), found]

/-- Computing the value of a range puts it within the limits. -/
theorem Fits.inLimits_refresh (fits : s.Fits form g) (member : f ∈ form.fields)
    (range : f.kind.isRange = true)
    (proposes : ∀ state, ∃ v, (s.surroundings env).proposed f change state = some v) :
    (s.refresh env f change).InLimits f := by
  obtain ⟨old, new, -, found, renews⟩ := fits.renews env change member
  obtain ⟨v, proposed⟩ := proposes old
  exact ⟨new, found, renews.hold_of_proposed range proposed⟩

theorem InLimits.computeField (inside : (s.refresh env f' .initial).InLimits f) :
    (s.computeField env f').InLimits f :=
  exists_state?_computeField (fun _ hold => hold) inside

theorem inLimits_computeAll (h : g.Represents form) (fits : s.Fits form g) (env : Environment)
    (member : f ∈ form.fields) (range : f.kind.isRange = true) :
    (s.computeAll env).InLimits f := by
  refine computeAll_brings (B := fun _ => True) (Q := fun t => t.InLimits f) h fits env member
    (fun _ _ _ _ _ => trivial) (fun t fits _ => ?_) (fun t f' fits differs _ inside => ?_) trivial
  · exact (fits.inLimits_refresh member range (Surroundings.proposes_initial _)).computeField
  · exact (inside.refresh_other differs).computeField

/-- **A range is followed on what its content refers to**, where new limits come with a new
value. -/
theorem follows_inLimits (h : g.Represents form) (member : f ∈ form.fields)
    (range : f.kind.isRange = true) :
    Follows (fun _ => True) (g.Steered f) form g f
      ((g.context f.id .value).filter (· ≠ f.id)) fun s => s.InLimits f := by
  refine h.follows_value (fun _ _ inside => inside)
    (fun _ _ _ _ differs inside => inside.refresh_other differs)
    (fun s env changed trigger fits needed => ?computed)
    (fun s env changed trigger steers fits unneeded inside => ?kept)
  case computed => exact fits.inLimits_refresh member range (Surroundings.proposes_of_needs needed)
  case kept =>
    obtain ⟨state, present, hold⟩ := inside
    obtain ⟨old, new, before, found, renews⟩ := fits.renews env (.others changed trigger) member
    cases present.symm.trans before
    have apart : ¬ ∃ x ∈ g.context f.id .value, x ∈ changed := fun met => by
      rw [fits.needs_iff.2 met] at unneeded
      cases unneeded
    have least : (s.surroundings env).needs f .least (.others changed trigger) = false :=
      Bool.eq_false_iff.2 fun needed => apart (steers (Or.inl (fits.needs_iff.1 needed)))
    have greatest : (s.surroundings env).needs f .greatest (.others changed trigger) = false :=
      Bool.eq_false_iff.2 fun needed => apart (steers (Or.inr (fits.needs_iff.1 needed)))
    have nothing : (s.surroundings env).proposed f (.others changed trigger) state = none :=
      Surroundings.not_proposes_of_not_needs unneeded
        (Surroundings.hasStaleOption_of_plain (Kind.isDropdown_of_isRange range) state)
    exact ⟨new, found, renews.hold_of_not_needs range nothing least greatest hold⟩

/-- The limits of a field stay finite. -/
theorem lasts_finite (form : Definition) : Lasts form fun _ state => state.limits.Finite where
  created := fun _ _ => by
    refine ⟨?_, ?_⟩
    · show (Binary64.ofRatio false 0 1).isFinite = true
      decide +kernel
    · show (Binary64.ofRatio false 100 1).isFinite = true
      decide +kernel
  refreshed := fun _ _ _ _ state finite => (Surroundings.renews_refresh state).finite finite
  marked := fun _ _ _ finite => finite

theorem admits_steers (h : g.Represents form) (member : f ∈ form.fields)
    (steers : form.Steers o f) : g.Admits (g.Steered f) f.id o := by
  intro changed turn
  refine ⟨(h.of_turn turn).1, ?_⟩
  rw [h.meets_iff member turn, h.meets_iff member turn, h.meets_iff member turn]
  exact steers

/-- A limit that the field does not set stays what it is at first. -/
theorem lasts_default (form : Definition) : Lasts form fun f state =>
    ∀ name, f.limit? name = none → state.limits.of? name = ({} : Limits).of? name where
  created := fun _ _ _ _ => rfl
  refreshed := fun f _ s change state default name unset => by
    rw [(Surroundings.renews_refresh state).limits name, unset, default name unset]
    exact Option.map_id' ..
  marked := fun _ _ _ default => default

/-- **A range is within its limits when nothing waits**, after a run that steers it: if it was so
before, or the run starts with an edit that has its value computed. -/
theorem Fits.inLimits_actAll (fits : s.Fits form g) (h : g.Represents form)
    (member : f ∈ form.fields) (range : f.kind.isRange = true)
    {steps : List (Environment × Action)}
    (since : s.InLimits f ∨ ∃ env o raw rest, steps = (env, .edit o raw) :: rest ∧
      (o = f.id ∨ form.Reaches o .value f))
    (steers : ∀ o, (o ∈ s.waiting ∨ ∃ step ∈ steps, ∃ raw, step.2 = .edit o raw) →
      form.Steers o f)
    (ordinary : ∀ step ∈ steps, ∀ id trigger, step.2 ≠ .sourceChanged id trigger)
    (idle : (s.actAll steps).schedule.isIdle = true) : (s.actAll steps).InLimits f :=
  (follows_inLimits h member range).actAll_since h fits member
    (fun _ _ raw fits => fits.inLimits_refresh member range (Surroundings.proposes_user _ raw))
    since (fun o starts => admits_steers h member (steers o starts)) ordinary idle

/-- **When a range is within its limits.** Counting from the first computation of the form, or from
an edit that has the value of the range computed, every wave that waits and every edit steers the
range. Then once nothing waits its value is within its limits, if these leave room and it is a
number. -/
theorem value_within_limits {debounce : Nat} {t u : Session} {first : Environment}
    {before after : List (Environment × Action)} (opened : start form debounce = .ok s)
    (member : f ∈ form.fields) (range : f.kind.isRange = true)
    (reached : u = (s.computeAll first).actAll before)
    (since : before = [] ∨ ∃ env o raw rest, after = (env, .edit o raw) :: rest ∧
      (o = f.id ∨ form.Reaches o .value f))
    (steers : ∀ o, (o ∈ u.waiting ∨ ∃ step ∈ after, ∃ raw, step.2 = .edit o raw) →
      form.Steers o f)
    (ordinary : ∀ step ∈ after, ∀ id trigger, step.2 ≠ .sourceChanged id trigger)
    (ran : t = u.actAll after) (idle : t.schedule.isIdle = true) :
    ∃ state, t.state? f.id = some state ∧
      (state.limits.least.le state.limits.greatest = true →
        ∀ n, readNumber? state.value.toList = some n →
          state.limits.least.le n = true ∧ n.le state.limits.greatest = true) := by
  have h := Graph.represents_of_ok (start_ok opened).2.1
  have fits : u.Fits form s.graph := by
    rw [reached]
    exact ((fits_start opened).computeAll first).actAll before
  have within : t.InLimits f := by
    rw [ran] at idle ⊢
    refine fits.inLimits_actAll h member range (since.imp_left fun none => ?_) steers ordinary idle
    rw [reached, none]
    exact inLimits_computeAll h (fits_start opened) first member range
  have finite : ∃ state, t.state? f.id = some state ∧ state.limits.Finite := by
    have reached' : t.Reached form debounce := by
      rw [ran, reached]
      exact ((Reached.allComputed first (.opened opened)).actAll before).actAll after
    exact (reached'.upholds (lasts_finite form)).fields f member
  obtain ⟨state, found, hold⟩ := within
  obtain ⟨state', found', finite⟩ := finite
  cases found.symm.trans found'
  exact ⟨state, found, hold finite⟩

/-! ## An example -/

def top : Field :=
  { id := "top", label := "Top", kind := .number, content := some (.fixed "10") }

def score : Field :=
  { id := "score", label := "Score", kind := .range none (some (.expression "{{$$.top}}")) none
    content := some (.fixed "50") }

def game : Definition := { title := "Game", fields := [top, score] }

theorem top_mem : top ∈ game.fields := List.mem_cons_self

theorem score_mem : score ∈ game.fields := List.mem_cons_of_mem _ List.mem_cons_self

theorem start_game : ∃ s, start game defaultDebounce = .ok s :=
  exists_ok_of_isSome (by decide +kernel)

/-- A score that the user gives after the limit has moved is within it. -/
theorem value_within_limits_game : ∃ s, start game defaultDebounce = .ok s ∧
    ∀ (env : Environment) (t u : Session),
      u = (s.computeAll env).actAll [(env, .edit "top" "5"), (env, .settle)] →
      t = u.actAll [(env, .edit "score" "70"), (env, .settle)] →
      t.schedule.isIdle = true ∧ ∃ state, t.state? "score" = some state ∧
        (state.limits.least.le state.limits.greatest = true →
          ∀ n, readNumber? state.value.toList = some n →
            state.limits.least.le n = true ∧ n.le state.limits.greatest = true) := by
  obtain ⟨s, started⟩ := start_game
  refine ⟨s, started, ?_⟩
  intro env t u reached ran
  have h := Graph.represents_of_ok (start_ok started).2.1
  have first := (fits_start started).computeAll env
  have settled : u.schedule.isIdle = true := by
    rw [reached]
    exact (first.act (.edit "top" "5")).isIdle_settle env
  have fits : u.Fits game s.graph := by
    rw [reached]
    exact first.actAll _
  have idle : t.schedule.isIdle = true := by
    rw [ran]
    exact (fits.act (.edit "score" "70")).isIdle_settle env
  refine ⟨idle, value_within_limits started score_mem rfl reached
    (Or.inr ⟨env, "score", "70", _, rfl, Or.inl rfl⟩) ?_ ?_ ran idle⟩
  · intro o starts
    have self : o = "score" := eq_of_edit_settle settled starts
    rw [self]
    exact h.steers_self score_mem
  · simp

/-- Nothing feeds the top of the scores, nor the score. -/
theorem not_feeds_game {x : String} (member : f ∈ game.fields) : ¬ game.Feeds x f := by
  have each : ∀ f ∈ game.fields, ∀ p ∈ f.sources, p.1 ≠ .value ∧ p.1 ≠ .options := by
    decide
  rintro ⟨-, -, p, source, which, -⟩
  exact which.elim (each f member p source).1 (each f member p source).2

theorem refersTo_top : Template.RefersTo "{{$$.top}}" "top".toList where
  whole := by decide +kernel
  alone := by decide +kernel

theorem reads_top {store : DocumentStore} {now : Calendar.Instant} {value : String}
    (given : s.value? "top" = some value) : s.reads store now "{{$$.top}}" = .string value :=
  reads_reference refersTo_top (by decide +kernel) (by decide +kernel) given

theorem steady_greatest {store : DocumentStore} : score.Steady store .greatest := by
  intro raw text
  cases text
  refine ⟨fun mentioned => ?_, refersTo_top.clockFree⟩
  rw [← Template.mem_referencedFields] at mentioned
  revert mentioned
  decide +kernel

/-- The limits of the score when the greatest one shows the top of the scores. -/
theorem limits_score {store : DocumentStore} {value : String} {state : FieldState}
    (reached : s.Reached game defaultDebounce) (shown : s.Shows store 0 score .greatest)
    (given : s.value? "top" = some value) (found : s.state? "score" = some state)
    (finite : (Json.string value).toNumber.isFinite = true) :
    state.limits = ⟨0, (Json.string value).toNumber, 1⟩ := by
  obtain ⟨state', found', default⟩ := (reached.upholds (lasts_default game)).fields score score_mem
  cases found.symm.trans found'
  obtain ⟨state', found', agrees⟩ := shown
  cases found.symm.trans found'
  have greatest := agrees (.expression "{{$$.top}}") rfl
  rw [propertyBy, reads_top given] at greatest
  refine Limits.eq_of_of? fun name => ?_
  cases name with
  | greatest => exact greatest finite
  | least | step => exact default _ rfl
  | _ => rfl

/-- At first the score is what it starts from, within its limits. -/
theorem clamped_computeAll (h : g.Represents game) (fits : s.Fits game g) (env : Environment) :
    ∃ state, (s.computeAll env).state? "score" = some state ∧
      state.value = clamp state.limits "50" := by
  refine computeAll_brings (B := fun _ => True) (Q := fun t => ∃ state,
    t.state? "score" = some state ∧ state.value = clamp state.limits "50") h fits env score_mem
    (fun _ _ _ _ _ => trivial) (fun t fits _ => ?_) (fun t f' _ differs _ clamped => ?_) trivial
  · obtain ⟨old, new, -, found, renews⟩ := fits.renews env .initial score_mem
    have found : (t.refresh env score .initial).state? "score" = some new := found
    refine ⟨{ new with initialized := true }, ?_, renews.value rfl⟩
    rw [state?_computeField, found]
    rfl
  · obtain ⟨state, found, clamped⟩ := clamped
    refine ⟨state, ?_, clamped⟩
    have apart : "score" ≠ f'.id := fun same => differs same.symm
    rw [state?_computeField, state?_refresh, found, Option.map_some, Option.map_some, if_neg apart,
      if_neg apart]

/-- So at first it is the greatest that it may be. -/
theorem score_computeAll {store : DocumentStore} (h : g.Represents game) (fits : s.Fits game g)
    (reached : (s.computeAll ⟨store, 0⟩).Reached game defaultDebounce) :
    (s.computeAll ⟨store, 0⟩).Holds score "10" := by
  obtain ⟨state, found, clamped⟩ := clamped_computeAll h fits ⟨store, 0⟩
  have given : (s.computeAll ⟨store, 0⟩).value? "top" = some "10" := by
    have shown : (s.computeAll ⟨store, 0⟩).Shows store 0 top .value :=
      shows_computeAll h fits 0 0 top_mem (by rintro raw ⟨⟩)
    exact (shown.holds rfl {} rfl).value?
  have limits := limits_score reached (shows_computeAll h fits 0 0 score_mem steady_greatest) given
    found (by decide +kernel)
  have held : clamp ⟨0, (Json.string "10").toNumber, 1⟩ "50" = "10" := by
    decide +kernel
  rw [limits, held] at clamped
  exact ⟨state, found, clamped, Surroundings.hasStaleOption_of_plain rfl _⟩

/-- A score stays above its greatest value when this moves below it. -/
theorem value_beyond_limits_game : ∃ s, start game defaultDebounce = .ok s ∧
    ∀ (store : DocumentStore) (t : Session),
      t = (s.computeAll ⟨store, 0⟩).run store [(0, .edit "top" "5"), (0, .settle)] →
      t.schedule.isIdle = true ∧ ∃ state n, t.state? "score" = some state ∧
        state.limits.least.le state.limits.greatest = true ∧
        readNumber? state.value.toList = some n ∧ n.le state.limits.greatest = false := by
  obtain ⟨s, started⟩ := start_game
  refine ⟨s, started, ?_⟩
  intro store t ran
  have h := Graph.represents_of_ok (start_ok started).2.1
  have opened := fits_start started
  have reached : (s.computeAll ⟨store, 0⟩).Reached game defaultDebounce :=
    .allComputed _ (.opened started)
  have first := opened.computeAll ⟨store, 0⟩
  have nothing := isIdle_computeAll started ⟨store, 0⟩
  have idle : t.schedule.isIdle = true := by
    rw [ran]
    exact (first.act (.edit "top" "5")).isIdle_settle ⟨store, 0⟩
  -- The score is computed from nothing, so the new top leaves it alone.
  have held : t.Holds score "10" := by
    rw [ran]
    exact (score_computeAll h opened reached).edit_settle first h score_mem nothing (by decide)
      fun x feeds => absurd feeds (not_feeds_game score_mem)
  have given : t.value? "top" = some "5" := by
    rw [ran]
    exact (first.holds_edit_settle h top_mem nothing rfl fun _ => rfl).value?
  have shown : t.Shows store 0 score .greatest := by
    rw [ran] at idle ⊢
    exact Shows.run first h score_mem steady_greatest
      (shows_computeAll h opened 0 0 score_mem steady_greatest) (by rintro ⟨⟩) idle
  have reached : t.Reached game defaultDebounce := by
    rw [ran]
    exact reached.run store _
  obtain ⟨state, found, value, -⟩ := held
  have limits := limits_score reached shown given found (by decide +kernel)
  refine ⟨idle, state, Binary64.ofNat 10, found, ?_⟩
  rw [limits, value]
  decide +kernel

end Session

end Formulary.Form
