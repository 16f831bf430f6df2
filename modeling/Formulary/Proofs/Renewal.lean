import Formulary.Proofs.Outcome

/-!
# What computing a field makes of its state

`Renews` lists, property by property, what a field's state is after it has been computed on a
change: anew what the change makes necessary, and as it was before otherwise.

* `renews_refresh`: so does `refresh`.
* `hasStaleOption_refresh`: the value of a dropdown is among its options after that.
-/

namespace Formulary.Form

open Template (Property)

/-- The property that sets a limit. -/
def Field.limit? (f : Field) (name : PropertyName) : Option (Property Binary64) :=
  match f.kind, name with
  | .range least _ _, .least => least
  | .range _ greatest _, .greatest => greatest
  | .range _ _ step, .step => step
  | _, _ => none

theorem Field.name_of_limit? {f : Field} {name : PropertyName} {limit : Property Binary64}
    (given : f.limit? name = some limit) : name = .least ∨ name = .greatest ∨ name = .step := by
  unfold limit? at given
  split at given
  · exact Or.inl rfl
  · exact Or.inr (Or.inl rfl)
  · exact Or.inr (Or.inr rfl)
  · cases given

/-- The limit that a property sets. -/
def Limits.of? (limits : Limits) : PropertyName → Option Binary64
  | .least => some limits.least
  | .greatest => some limits.greatest
  | .step => some limits.step
  | _ => none

theorem Limits.eq_of_of? {limits limits' : Limits}
    (same : ∀ name, limits.of? name = limits'.of? name) : limits = limits' := by
  have least := same .least
  have greatest := same .greatest
  have step := same .step
  cases limits
  cases limits'
  cases least
  cases greatest
  cases step
  rfl

/-- The change is a user's edit. -/
def Change.isEdit : Change → Bool
  | .user _ => true
  | _ => false

namespace Surroundings

variable {s : Surroundings} {f : Field} {change : Change}

/-- The finite number to which a change sets a limit, if it sets it. -/
def newLimit? (s : Surroundings) (f : Field) (change : Change) (name : PropertyName)
    (limit : Option (Property Binary64)) (state : FieldState) : Option Binary64 :=
  limit.bind fun limit =>
    if s.needs f name change then
      let number := (s.valueOfProperty f name Json.float limit state).toNumber
      if number.isFinite then some number else none
    else none

/-- The options that an expression gives after a change: its values are merged in, if the change
makes it necessary. -/
def newOptions (s : Surroundings) (f : Field) (change : Change) (source : String)
    (state : FieldState) : OptionSet :=
  if s.needs f .options change then
    state.options.merge ⟨s.optionSource f change, .options⟩
      (optionValues (s.valueOf f .options source state))
  else state.options

/-- The options of a field after those that an expression gives were computed. -/
def offered (s : Surroundings) (f : Field) (change : Change) (state : FieldState) : OptionSet :=
  match f.kind with
  | .dropdown (some (.expression source)) => s.newOptions f change source state
  | _ => state.options

/-- A text after a change. -/
def newText (s : Surroundings) (f : Field) (change : Change) (name : PropertyName)
    (source : Option String) (state : FieldState) (old : String) : String :=
  match source with
  | none => old
  | some raw =>
    if s.needs f name change then plainText (s.valueOf f name raw state) else old

/-- The value after a candidate for it came up. -/
def accepted (f : Field) (limits : Limits) (old : String) (candidate : Option Json) : String :=
  match candidate with
  | none => old
  | some v => match coerce f.kind limits v with
    | .ok value => value
    | .error _ => old

/-- The state of a field after it was computed on a change, by its state before. -/
structure Renews (s : Surroundings) (f : Field) (change : Change) (old new : FieldState) :
    Prop where
  placeholder :
    new.placeholder = s.newText f change .placeholder f.placeholder new old.placeholder
  description :
    new.description = s.newText f change .description f.description new old.description
  hidden : new.hidden =
    if change.isEdit || s.needs f .hide change then s.hides f new else old.hidden
  required : new.required =
    if change.isEdit || s.needs f .hide change then f.required && !new.hidden else old.required
  limits : ∀ name, new.limits.of? name =
    (old.limits.of? name).map ((s.newLimit? f change name (f.limit? name) old).getD ·)
  value : f.kind.isDropdown = false →
    new.value = accepted f new.limits old.value (s.proposed f change old)
  /-- What proposes no value keeps the one there is. -/
  kept : s.needs f .options change = false → s.proposed f change old = none →
    new.value = old.value ∧ new.options = old.options
  /-- A value that the user gives is taken, by a dropdown among its options. -/
  edited : ∀ raw value, change = .user raw → raw.isEmpty = false →
    coerce f.kind new.limits (.string raw) = .ok value →
      new.value = value ∧ hasStaleOption f new = false

/-- A value that the user gives leaves the limits. -/
theorem Renews.limits_of_user {s : Surroundings} {f : Field} {raw : String} {old new : FieldState}
    (renews : s.Renews f (.user raw) old new) : new.limits = old.limits := by
  refine Limits.eq_of_of? fun name => ?_
  rw [renews.limits]
  cases f.limit? name <;> exact Option.map_id' ..

/-! ## Options and limits -/

theorem own_refreshOptions_of_expression {source : String}
    (kind : f.kind = .dropdown (some (.expression source))) (state : FieldState) :
    (outcome (s.refreshOptions f change) state).own =
      { state with options := s.newOptions f change source state } := by
  unfold refreshOptions newOptions
  rw [kind]
  cases needed : s.needs f .options change with
  | false => rfl
  | true =>
    dsimp only
    rw [if_pos rfl, if_pos rfl, (reads_evaluateText .options source).outcome_bind (i := f.id)]
    · rfl
    · exact fun _ => reads_own.about.bind fun _ => (about_setOwn _).bind fun _ => about_tell rfl

theorem own_refreshOptions (s : Surroundings) (f : Field) (change : Change) (state : FieldState) :
    (outcome (s.refreshOptions f change) state).own =
      { state with options := s.offered f change state } := by
  unfold offered
  split
  · rename_i source kind
    exact own_refreshOptions_of_expression kind state
  · rename_i other
    unfold refreshOptions
    split
    · rename_i source kind
      exact absurd kind (other source)
    · rfl

theorem offered_of_expression {source : String}
    (kind : f.kind = .dropdown (some (.expression source))) (state : FieldState) :
    s.offered f change state = s.newOptions f change source state := by
  rw [offered, kind]

theorem offered_of_not_needs (unneeded : s.needs f .options change = false) (state : FieldState) :
    s.offered f change state = state.options := by
  unfold offered
  split
  · rw [newOptions, unneeded, if_neg Bool.false_ne_true]
  · rfl

theorem newLimit?_of_not_needs {name : PropertyName} (unneeded : s.needs f name change = false)
    (limit : Option (Property Binary64)) (state : FieldState) :
    s.newLimit? f change name limit state = none := by
  unfold newLimit?
  cases limit with
  | none => rfl
  | some limit => rw [Option.bind_some, unneeded, if_neg Bool.false_ne_true]

theorem newText_of_not_needs {name : PropertyName} (unneeded : s.needs f name change = false)
    (source : Option String) (state : FieldState) (old : String) :
    s.newText f change name source state old = old := by
  unfold newText
  cases source with
  | none => rfl
  | some raw =>
    dsimp only
    rw [unneeded, if_neg Bool.false_ne_true]

theorem own_refreshLimit (name : PropertyName) (limit : Option (Property Binary64))
    (set : Binary64 → Limits → Limits) (state : FieldState) :
    (outcome (s.refreshLimit f change name limit set) state).own =
      { state with
        limits := ((s.newLimit? f change name limit state).map (set · state.limits)).getD
          state.limits } := by
  unfold refreshLimit newLimit?
  cases limit with
  | none => rfl
  | some limit =>
    rw [Option.bind_some]
    cases needed : s.needs f name change with
    | false => rfl
    | true =>
      dsimp only
      rw [if_pos rfl, if_pos rfl, (reads_evaluate name Json.float limit).outcome_bind (i := f.id)]
      · cases finite : (s.valueOfProperty f name Json.float limit state).toNumber.isFinite with
        | false => rfl
        | true => rfl
      · exact fun _ => (reads_own.about.bind fun _ => about_setOwn _).ite _ (reads_pure ()).about

theorem newLimit?_limits (name : PropertyName) (limit : Option (Property Binary64))
    (state : FieldState) (limits : Limits) :
    s.newLimit? f change name limit { state with limits := limits } =
      s.newLimit? f change name limit state := rfl

theorem own_refreshLimits (s : Surroundings) (f : Field) (change : Change) (state : FieldState) :
    ∃ limits, (outcome (s.refreshLimits f change) state).own = { state with limits := limits } ∧
      ∀ name, limits.of? name =
        (state.limits.of? name).map ((s.newLimit? f change name (f.limit? name) state).getD ·) := by
  unfold refreshLimits Field.limit?
  split
  · rename_i least greatest step kind
    have first (x : Option Binary64) (l : Limits) :
        (x.map fun x => { l with least := x }).getD l = { l with least := x.getD l.least } := by
      cases x <;> rfl
    have second (x : Option Binary64) (l : Limits) :
        (x.map fun x => { l with greatest := x }).getD l =
          { l with greatest := x.getD l.greatest } := by
      cases x <;> rfl
    have third (x : Option Binary64) (l : Limits) :
        (x.map fun x => { l with step := x }).getD l = { l with step := x.getD l.step } := by
      cases x <;> rfl
    rw [outcome_bind (i := f.id), outcome_bind (i := f.id), own_refreshLimit, own_refreshLimit,
      own_refreshLimit, newLimit?_limits, newLimit?_limits, first, second, third]
    · refine ⟨_, rfl, fun name => ?_⟩
      rw [kind]
      cases name <;> rfl
    · exact fun _ => about_refreshLimit _ _ _
    · exact fun _ => (about_refreshLimit _ _ _).bind fun _ => about_refreshLimit _ _ _
  · rename_i other
    refine ⟨state.limits, rfl, fun name => ?_⟩
    split
    · rename_i kind
      exact absurd kind (other _ _ _)
    · rename_i kind
      exact absurd kind (other _ _ _)
    · rename_i kind
      exact absurd kind (other _ _ _)
    · exact (Option.map_id' ..).symm

/-! ## Value -/

theorem own_store_of_plain (plain : f.kind.isDropdown = false) (value : String)
    (state : FieldState) :
    (outcome (store f change value) state).own = { state with value := value } := by
  unfold store
  rw [plain]
  rfl

theorem contains_inject (o : OptionSet) (mark : Provenance) {value : String}
    (filled : value.isEmpty = false) : (o.inject mark value).1.contains value = true := by
  have pushed (p : OptionSet) (mark : Option Provenance) :
      (p.push mark value).contains value = true := by
    unfold OptionSet.push
    split
    · rename_i there
      simpa [filled] using there
    · simp [OptionSet.contains, OptionSet.values]
  unfold OptionSet.inject
  split
  · rename_i there
    simpa [filled] using there
  · exact pushed _ _

/-- The field on whose account a value is taken into the options. -/
def valueSource (f : Field) : Change → String
  | .others _ trigger => trigger
  | _ => f.id

/-- A dropdown takes the first option for an empty value, and takes in what is not there. -/
theorem outcome_store_of_dropdown (dropdown : f.kind.isDropdown = true) (value : String)
    (state : FieldState) :
    outcome (store f change value) state =
      let stored := if value.isEmpty then (state.options.first?).getD "" else value
      let taken := state.options.inject ⟨valueSource f change, .value⟩ stored
      ⟨(), { state with options := taken.1, value := stored },
        (if taken.2 then [.options f.id taken.1.values] else []) ++ [.value f.id stored]⟩ := by
  have told (taken : OptionSet × Bool) (stored : String) :
      outcome (do
        setOwn { state with options := taken.1, value := stored }
        if taken.2 then tell (.options f.id taken.1.values)
        tell (.value f.id stored)) state =
      ⟨(), { state with options := taken.1, value := stored },
        (if taken.2 then [.options f.id taken.1.values] else []) ++ [.value f.id stored]⟩ := by
    obtain ⟨options, fresh⟩ := taken
    cases fresh <;> rfl
  unfold store
  rw [dropdown]
  cases change with
  | initial => exact told _ _
  | user raw => exact told _ _
  | others changed trigger => exact told _ _

/-- What a dropdown stores is among its options then, or empty. -/
theorem own_store_of_dropdown (change : Change) (dropdown : f.kind.isDropdown = true)
    (value : String) (state : FieldState) :
    ∃ options, (outcome (store f change value) state).own =
        { state with
          value := if value.isEmpty then (state.options.first?).getD "" else value
          options := options } ∧
      hasStaleOption f { state with
        value := if value.isEmpty then (state.options.first?).getD "" else value
        options := options } = false := by
  have held (mark : Provenance) (value : String) : hasStaleOption f { state with
      value := value, options := (state.options.inject mark value).1 } = false := by
    cases filled : value.isEmpty with
    | true => simp only [hasStaleOption, filled, Bool.not_true, Bool.and_false, Bool.false_and]
    | false =>
      simp only [hasStaleOption, contains_inject _ mark filled, Bool.not_true, Bool.and_false]
  rw [outcome_store_of_dropdown dropdown]
  exact ⟨_, rfl, held _ _⟩

/-- A dropdown takes any text as it is. -/
theorem coerce_dropdown {kind : Kind} {limits : Limits} {raw : String}
    (dropdown : kind.isDropdown = true) (filled : raw.isEmpty = false) :
    coerce kind limits (.string raw) = .ok raw := by
  unfold coerce
  rw [isEmptyValue, filled]
  cases kind with
  | dropdown options => rfl
  | _ => cases dropdown

/-- Only dates and times refuse values. -/
theorem isDropdown_of_refused {kind : Kind} {limits : Limits} {v : Json} {e : CoercionError}
    (refused : coerce kind limits v = .error e) : kind.isDropdown = false := by
  cases kind with
  | dropdown options =>
    unfold coerce at refused
    split at refused <;> cases refused
  | _ => rfl

/-- What is not a dropdown has no options to drop out of. -/
theorem hasStaleOption_of_plain (plain : f.kind.isDropdown = false) (state : FieldState) :
    hasStaleOption f state = false := by
  rw [hasStaleOption, plain, Bool.false_and, Bool.false_and]

/-- What is stored: the value, unless it is an empty one for a dropdown. -/
theorem own_store (f : Field) (change : Change) (value : String) (state : FieldState) :
    ∃ stored options, (outcome (store f change value) state).own =
        { state with value := stored, options := options } ∧
      ((f.kind.isDropdown = true → value.isEmpty = false) → stored = value) ∧
      hasStaleOption f { state with value := stored, options := options } = false := by
  cases dropdown : f.kind.isDropdown with
  | false =>
    exact ⟨value, state.options, own_store_of_plain dropdown value state, fun _ => rfl,
      hasStaleOption_of_plain dropdown _⟩
  | true =>
    obtain ⟨options, stored, fresh⟩ := own_store_of_dropdown change dropdown value state
    refine ⟨_, options, stored, fun given => ?_, fresh⟩
    rw [if_neg (by rw [given rfl]; exact Bool.false_ne_true)]

/-- What proposes no value has left the value of a dropdown among its options. -/
theorem not_hasStaleOption_of_proposed {state : FieldState}
    (none : s.proposed f change state = none) : hasStaleOption f state = false := by
  cases change with
  | initial => cases none
  | user raw =>
    rw [proposed] at none
    split at none
    · cases none
    · cases none
  | others changed trigger =>
    rw [proposed] at none
    split at none
    · cases none
    · rename_i unneeded
      exact (Bool.or_eq_false_iff.1 (Bool.eq_false_iff.2 unneeded)).2

/-- What computing the value comes to, by the value that the change proposes. -/
theorem outcome_refreshValue (s : Surroundings) (f : Field) (change : Change) (state : FieldState) :
    outcome (s.refreshValue f change) state =
      match s.proposed f change state with
      | none => ⟨(), state, []⟩
      | some candidate => match coerce f.kind state.limits candidate with
        | .ok value => outcome (store f change value) state
        | .error _ => ⟨(), state, []⟩ := by
  unfold refreshValue
  rw [reads_proposal.outcome_bind (i := f.id) fun candidate => ?about]
  case about =>
    cases candidate with
    | none => exact (reads_pure ()).about
    | some candidate =>
      refine reads_own.about.bind fun state => ?_
      cases coerce f.kind state.limits candidate with
      | ok value => exact about_store value
      | error e => exact (reads_consult (Template.recording_raise _)).about
  cases s.proposed f change state with
  | none => rfl
  | some candidate =>
    show outcome (match coerce f.kind state.limits candidate with
      | .ok value => store f change value
      | .error e => consult (Template.raise (.warning (f.label ++ ": " ++ e.message)))) state = _
    dsimp only
    cases coerce f.kind state.limits candidate with
    | ok value => rfl
    | error e => rfl

/-- What the value becomes: the options take part only in a dropdown, and it is among them after. -/
theorem own_refreshValue (s : Surroundings) (f : Field) (change : Change) (state : FieldState) :
    ∃ value options, (outcome (s.refreshValue f change) state).own =
        { state with value := value, options := options } ∧
      (f.kind.isDropdown = false →
        value = accepted f state.limits state.value (s.proposed f change state)) ∧
      (s.proposed f change state = none → value = state.value ∧ options = state.options) ∧
      (∀ raw taken, s.proposed f change state = some (.string raw) → raw.isEmpty = false →
        coerce f.kind state.limits (.string raw) = .ok taken → value = taken) ∧
      hasStaleOption f { state with value := value, options := options } = false := by
  rw [outcome_refreshValue]
  cases proposes : s.proposed f change state with
  | none =>
    refine ⟨state.value, state.options, rfl, fun _ => rfl, fun _ => ⟨rfl, rfl⟩, ?_,
      not_hasStaleOption_of_proposed proposes⟩
    intro raw taken absurd
    cases absurd
  | some candidate =>
    dsimp only
    cases coerced : coerce f.kind state.limits candidate with
    | error e =>
      have plain : f.kind.isDropdown = false := isDropdown_of_refused coerced
      refine ⟨state.value, state.options, rfl, fun _ => ?_, fun absurd => ?_, ?_,
        hasStaleOption_of_plain plain _⟩
      · simp only [accepted, coerced]
      · cases absurd
      · rintro raw taken ⟨⟩ filled ok
        rw [coerced] at ok
        cases ok
    | ok value =>
      obtain ⟨stored, options, shape, same, fresh⟩ := own_store f change value state
      refine ⟨stored, options, shape, fun plain => ?_, (fun absurd => by cases absurd), ?_, fresh⟩
      · have offered := same fun dropdown => by rw [plain] at dropdown; cases dropdown
        simp only [accepted, coerced, offered]
      · rintro raw taken ⟨⟩ filled ok
        cases coerced.symm.trans ok
        refine same fun dropdown => ?_
        rw [coerce_dropdown dropdown filled] at coerced
        cases coerced
        exact filled

/-! ## Texts and visibility -/

theorem own_refreshPlaceholder (state : FieldState) :
    (outcome (s.refreshPlaceholder f change) state).own =
      { state with placeholder :=
          s.newText f change .placeholder f.placeholder state state.placeholder } := by
  unfold refreshPlaceholder newText
  cases f.placeholder with
  | none => rfl
  | some raw =>
    cases needed : s.needs f .placeholder change with
    | false => rfl
    | true =>
      dsimp only
      rw [if_pos rfl, if_pos rfl, (reads_evaluateText .placeholder raw).outcome_bind (i := f.id)]
      · rfl
      · have shown (text : String) : About f.id (tell (.placeholder f.id text)) := about_tell rfl
        exact fun _ => (shown _).bind fun _ => reads_own.about.bind fun _ => about_setOwn _

theorem own_refreshDescription (state : FieldState) :
    (outcome (s.refreshDescription f change) state).own =
      { state with description :=
          s.newText f change .description f.description state state.description } := by
  unfold refreshDescription newText
  cases f.description with
  | none => rfl
  | some raw =>
    cases needed : s.needs f .description change with
    | false => rfl
    | true =>
      dsimp only
      rw [if_pos rfl, if_pos rfl, (reads_evaluateText .description raw).outcome_bind (i := f.id)]
      · rfl
      · have shown (text : String) : About f.id (tell (.description f.id text)) := about_tell rfl
        exact fun _ => (shown _).bind fun _ => reads_own.about.bind fun _ => about_setOwn _

theorem own_refreshVisibility (state : FieldState) :
    (outcome (s.refreshVisibility f change) state).own =
      { state with
        hidden := if change.isEdit || s.needs f .hide change then s.hides f state else state.hidden
        required := if change.isEdit || s.needs f .hide change then
          f.required && !s.hides f state else state.required } := by
  show (outcome (if change.isEdit || s.needs f .hide change then do
      let hidden ← s.isHidden f
      setOwn { ← own with hidden := hidden, required := f.required && !hidden }
      tell (.visible f.id !hidden)
    else pure ()) state).own = _
  split
  · rw [reads_isHidden.outcome_bind (i := f.id)]
    · rfl
    · have shown (visible : Bool) : About f.id (tell (.visible f.id visible)) := about_tell rfl
      exact fun _ => reads_own.about.bind fun _ => (about_setOwn _).bind fun _ => shown _
  · rfl

/-! ## All properties -/

/-- The states that a field goes through while it is computed: each part changes its own
properties, and leaves the others as they are. -/
theorem own_refresh (state : FieldState) :
    (outcome (s.refresh f change) state).own =
      (outcome (s.refreshVisibility f change) (outcome (s.refreshDescription f change)
        (outcome (s.refreshPlaceholder f change) (outcome (s.refreshValue f change)
          (outcome (s.refreshLimits f change) (outcome (s.refreshOptions f change)
            state).own).own).own).own).own).own := by
  have texts : About f.id (do s.refreshDescription f change; s.refreshVisibility f change) :=
    about_refreshDescription.bind fun _ => about_refreshVisibility
  have later : About f.id (do
      s.refreshPlaceholder f change
      s.refreshDescription f change
      s.refreshVisibility f change) :=
    about_refreshPlaceholder.bind fun _ => texts
  have value : About f.id (do
      s.refreshValue f change
      s.refreshPlaceholder f change
      s.refreshDescription f change
      s.refreshVisibility f change) :=
    about_refreshValue.bind fun _ => later
  unfold refresh
  rw [outcome_bind _ fun _ => about_refreshLimits.bind fun _ => value,
    outcome_bind _ fun _ => value, outcome_bind _ fun _ => later, outcome_bind _ fun _ => texts,
    outcome_bind _ fun _ => about_refreshVisibility]

/-- A change proposes the same value in states that differ in what only a dropdown looks at. -/
theorem proposed_of_plain (plain : f.kind.isDropdown = false) {state state' : FieldState}
    (same : state.value = state'.value) :
    s.proposed f change state = s.proposed f change state' := by
  have contents : s.contentOf f state = s.contentOf f state' := by
    unfold contentOf valueOf context
    rw [same]
  unfold proposed
  simp only [contents, hasStaleOption_of_plain plain]

/-- **Computing a field renews what the change makes necessary, and nothing else.** -/
theorem renews_refresh (state : FieldState) :
    s.Renews f change state (outcome (s.refresh f change) state).own := by
  have listed := own_refreshOptions s f change state
  have unlisted (unneeded : s.needs f .options change = false) :=
    offered_of_not_needs unneeded state
  generalize s.offered f change state = options at listed unlisted
  rcases own_refreshLimits s f change { state with options := options } with
    ⟨limits, limited, newLimits⟩
  rcases own_refreshValue s f change { state with options := options, limits := limits } with
    ⟨value, offered, valued, newValue, kept, edited, fresh⟩
  rw [own_refresh, listed, limited, valued, own_refreshPlaceholder, own_refreshDescription,
    own_refreshVisibility]
  have newValue (plain : f.kind.isDropdown = false) :
      value = accepted f limits state.value (s.proposed f change state) := by
    rw [newValue plain]
    exact congrArg _ (proposed_of_plain plain rfl)
  have kept (unneeded : s.needs f .options change = false)
      (none : s.proposed f change state = none) :
      value = state.value ∧ offered = state.options := by
    cases unlisted unneeded
    exact kept none
  have edited : ∀ raw taken, change = .user raw → raw.isEmpty = false →
      coerce f.kind limits (.string raw) = .ok taken → value = taken ∧
        hasStaleOption f { state with value := value, options := offered, limits := limits } =
          false := by
    rintro raw taken rfl filled ok
    exact ⟨edited raw taken (by rw [proposed, filled]; rfl) filled ok, fresh⟩
  exact {
    placeholder := rfl
    description := rfl
    hidden := rfl
    required := by
      by_cases decided : (change.isEdit || s.needs f .hide change) = true
      · simp only [if_pos decided]
      · simp only [if_neg decided]
    limits := newLimits
    value := newValue
    kept := kept
    edited := edited }

/-- **After a dropdown has been computed its value is among its options**, whatever state it was
in before. -/
theorem hasStaleOption_refresh (state : FieldState) :
    hasStaleOption f (outcome (s.refresh f change) state).own = false := by
  have listed := own_refreshOptions s f change state
  generalize s.offered f change state = options at listed
  rcases own_refreshLimits s f change { state with options := options } with ⟨limits, limited, -⟩
  rcases own_refreshValue s f change { state with options := options, limits := limits } with
    ⟨value, offered, valued, -, -, -, fresh⟩
  rw [own_refresh, listed, limited, valued, own_refreshPlaceholder, own_refreshDescription,
    own_refreshVisibility]
  exact fresh

/-- The state in which the value is computed: with the options that the change offers, and the
limits that the field gets. -/
def valuing (s : Surroundings) (f : Field) (change : Change) (state : FieldState) : FieldState :=
  { state with
    options := s.offered f change state
    limits := (outcome (s.refresh f change) state).own.limits }

theorem own_refreshLimits_offered (s : Surroundings) (f : Field) (change : Change)
    (state : FieldState) :
    (outcome (s.refreshLimits f change) (outcome (s.refreshOptions f change) state).own).own =
      s.valuing f change state := by
  rcases own_refreshLimits s f change { state with options := s.offered f change state } with
    ⟨limits, limited, -⟩
  rcases own_refreshValue s f change
      { state with options := s.offered f change state, limits := limits } with
    ⟨value, offered, valued, -⟩
  rw [valuing, own_refresh, own_refreshOptions, limited, own_refreshPlaceholder,
    own_refreshDescription, own_refreshVisibility, valued]

/-- The value and the options are what computing the value makes of them. -/
theorem own_refresh_valuing (s : Surroundings) (f : Field) (change : Change) (state : FieldState) :
    (outcome (s.refresh f change) state).own.value =
        (outcome (s.refreshValue f change) (s.valuing f change state)).own.value ∧
      (outcome (s.refresh f change) state).own.options =
        (outcome (s.refreshValue f change) (s.valuing f change state)).own.options := by
  rw [own_refresh, own_refreshLimits_offered, own_refreshPlaceholder, own_refreshDescription,
    own_refreshVisibility]
  exact ⟨rfl, rfl⟩

theorem proposed_valuing (state : FieldState) :
    s.proposed f change (s.valuing f change state) =
      s.proposed f change { state with options := s.offered f change state } := rfl

/-- **If the change proposes no value**, the field keeps the one it has. -/
theorem kept_of_not_proposed {state : FieldState}
    (none : s.proposed f change { state with options := s.offered f change state } = none) :
    (outcome (s.refresh f change) state).own.value = state.value ∧
      (outcome (s.refresh f change) state).own.options = s.offered f change state := by
  obtain ⟨value, options⟩ := own_refresh_valuing s f change state
  rw [value, options, outcome_refreshValue, proposed_valuing, none]
  exact ⟨rfl, rfl⟩

/-- **If the change proposes a value**, a dropdown takes it among its options, or the first of these
for an empty one. -/
theorem taken_of_proposed (dropdown : f.kind.isDropdown = true) {state : FieldState} {v : Json}
    (proposed : s.proposed f change { state with options := s.offered f change state } = some v) :
    ∃ taken, coerce f.kind (outcome (s.refresh f change) state).own.limits v = .ok taken ∧
      (outcome (s.refresh f change) state).own.value =
        (if taken.isEmpty then ((s.offered f change state).first?).getD "" else taken) ∧
      (outcome (s.refresh f change) state).own.options =
        ((s.offered f change state).inject ⟨valueSource f change, .value⟩
          (outcome (s.refresh f change) state).own.value).1 := by
  obtain ⟨value, options⟩ := own_refresh_valuing s f change state
  rw [outcome_refreshValue, proposed_valuing, proposed] at value options
  cases coerced : coerce f.kind (outcome (s.refresh f change) state).own.limits v with
  | error e =>
    rw [isDropdown_of_refused coerced] at dropdown
    cases dropdown
  | ok taken =>
    have accepted : coerce f.kind (s.valuing f change state).limits v = .ok taken := coerced
    dsimp only at value options
    rw [accepted] at value options
    dsimp only at value options
    rw [outcome_store_of_dropdown dropdown] at value options
    refine ⟨taken, rfl, value, ?_⟩
    rw [options, value]
    rfl

theorem proposes_initial (s : Surroundings) (state : FieldState) :
    ∃ v, s.proposed f .initial state = some v := ⟨_, rfl⟩

theorem proposes_user (s : Surroundings) (raw : String) (state : FieldState) :
    ∃ v, s.proposed f (.user raw) state = some v := by
  unfold proposed
  dsimp only
  split
  · exact ⟨_, rfl⟩
  · exact ⟨_, rfl⟩

/-- A change of others that has the value computed proposes one. -/
theorem proposes_of_needs {changed : List String} {trigger : String}
    (needed : s.needs f .value (.others changed trigger) = true) (state : FieldState) :
    ∃ v, s.proposed f (.others changed trigger) state = some v := by
  rw [proposed, needed]
  exact ⟨_, rfl⟩

/-- One that does not proposes none, unless the value has dropped out of the options. -/
theorem not_proposes_of_not_needs {changed : List String} {trigger : String} {state : FieldState}
    (unneeded : s.needs f .value (.others changed trigger) = false)
    (fresh : hasStaleOption f state = false) :
    s.proposed f (.others changed trigger) state = none := by
  rw [proposed, unneeded, fresh]
  rfl

end Surroundings

end Formulary.Form
