import Formulary.Proofs.Settled

/-!
# The last edit of a field

A value that the user gave stays until the field is computed anew from its content. A change of
another field does this when the content, or the options, refer to that field (`Feeds`). So the last
edit of a field stands if no wave that waits at that moment comes to such a field (`Holds.run`). If
one does, the field goes back to its content once the wave has run (`overtaken`).
-/

namespace Formulary.Form

open Relation (ReflTransGen TransGen)

variable {form : Definition} {g : Graph} {f f' : Field} {x o : String}

/-! ## What the value is computed from -/

/-- The content of the field refers to `x`, or its options do. -/
def Definition.Feeds (form : Definition) (x : String) (f : Field) : Prop :=
  x ∈ form.ids ∧ x ≠ f.id ∧ ∃ p ∈ f.sources, (p.1 = .value ∨ p.1 = .options) ∧
    Template.Mentions p.2.toList x.toList

/-- No wave that starts in `o` comes to anything from which the value of the field is computed. -/
def Definition.Spares (form : Definition) (o : String) (f : Field) : Prop :=
  ∀ x, form.Feeds x f → ¬ ReflTransGen form.Edge o x

theorem Definition.Feeds.edge (feeds : form.Feeds x f) (member : f ∈ form.fields) :
    form.Edge x f.id := by
  obtain ⟨known, differs, p, source, -, mentioned⟩ := feeds
  exact ⟨known, differs, f, member, rfl, p, source, mentioned⟩

theorem Graph.Represents.feeds_iff (h : g.Represents form) (member : f ∈ form.fields) :
    form.Feeds x f ↔
      x ≠ f.id ∧ (x ∈ g.context f.id .value ∨ x ∈ g.context f.id .options) := by
  rw [h.mem_context member, h.mem_context member]
  constructor
  · intro feeds
    obtain ⟨known, differs, ⟨name, raw⟩, source, which, mentioned⟩ := feeds
    have text := Field.mem_sources.1 source
    refine ⟨differs, ?_⟩
    rcases which with rfl | rfl
    · exact Or.inl ⟨raw, text, known, mentioned⟩
    · exact Or.inr ⟨raw, text, known, mentioned⟩
  · intro referred
    rcases referred with ⟨differs, ⟨raw, text, known, mentioned⟩ | ⟨raw, text, known, mentioned⟩⟩
    · exact ⟨known, differs, (.value, raw), Field.mem_sources.2 text, Or.inl rfl, mentioned⟩
    · exact ⟨known, differs, (.options, raw), Field.mem_sources.2 text, Or.inr rfl, mentioned⟩

/-- The waves of a field that the given one does not depend on spare it. -/
theorem Definition.spares_of_not_upstream (member : f ∈ form.fields)
    (apart : ¬ TransGen form.Edge o f.id) : form.Spares o f := by
  intro x feeds path
  exact apart (TransGen.tail' path (feeds.edge member))

/-- The waves of a field spare the field. -/
theorem Graph.Represents.spares_self (h : g.Represents form) (member : f ∈ form.fields) :
    form.Spares f.id f :=
  Definition.spares_of_not_upstream member (h.acyclic f.id)

/-! ## A value that is held -/

namespace Session

variable {s : Session} {env : Environment} {change : Change} {value raw : String}

/-- The field has the value, and the value has not dropped out of the options. -/
def Holds (s : Session) (f : Field) (value : String) : Prop :=
  ∃ state, s.state? f.id = some state ∧ state.value = value ∧
    Surroundings.hasStaleOption f state = false

theorem Holds.value? (holds : s.Holds f value) : s.value? f.id = some value := by
  obtain ⟨state, found, rfl, -⟩ := holds
  rw [Session.value?, found]
  rfl

theorem holds_of_value? (plain : f.kind.isDropdown = false) (given : s.value? f.id = some value) :
    s.Holds f value := by
  obtain ⟨state, found, is⟩ := Option.map_eq_some_iff.1 given
  exact ⟨state, found, is, Surroundings.hasStaleOption_of_plain plain state⟩

theorem Holds.refresh_other (holds : s.Holds f value) (differs : f'.id ≠ f.id) :
    (s.refresh env f' change).Holds f value := by
  obtain ⟨state, found, is, fresh⟩ := holds
  refine ⟨state, ?_, is, fresh⟩
  rw [state?_refresh_of_ne (Ne.symm differs), found]

/-- Computing the field on changes of others leaves the value, unless one of them feeds it. -/
theorem Holds.refresh_self (holds : s.Holds f value) (fits : s.Fits form g)
    (h : g.Represents form) (member : f ∈ form.fields) {changed : List String} (trigger : String)
    (unchanged : f.id ∉ changed) (spared : ∀ x ∈ changed, ¬ form.Feeds x f) :
    (s.refresh env f (.others changed trigger)).Holds f value := by
  obtain ⟨state, present, is, fresh⟩ := holds
  obtain ⟨old, new, before, found, renews⟩ := fits.renews env (.others changed trigger) member
  cases present.symm.trans before
  have unneeded (name : PropertyName) (which : name = .value ∨ name = .options) :
      (s.surroundings env).needs f name (.others changed trigger) = false := by
    refine List.any_eq_false.2 fun x referred met => ?_
    have graph : (s.surroundings env).graph = g := fits.ofGraph
    have met := List.contains_iff_mem.1 met
    rw [graph] at referred
    have differs : x ≠ f.id := by
      intro same
      exact unchanged (same ▸ met)
    refine spared x met ((h.feeds_iff member).2 ⟨differs, ?_⟩)
    rcases which with rfl | rfl
    · exact Or.inl referred
    · exact Or.inr referred
  have nothing : (s.surroundings env).proposed f (.others changed trigger) state = none :=
    Surroundings.not_proposes_of_not_needs (unneeded .value (Or.inl rfl)) fresh
  obtain ⟨sameValue, sameOptions⟩ := renews.kept (unneeded .options (Or.inr rfl)) nothing
  refine ⟨new, found, sameValue.trans is, ?_⟩
  rw [Surroundings.hasStaleOption, sameValue, sameOptions]
  exact fresh

/-- A user's value that fits the kind is held. -/
theorem Fits.holds_user (fits : s.Fits form g) (member : f ∈ form.fields) {old : FieldState}
    (present : s.state? f.id = some old) (filled : raw.isEmpty = false)
    (taken : coerce f.kind old.limits (.string raw) = .ok value) :
    (s.refresh env f (.user raw)).Holds f value := by
  obtain ⟨state, new, before, found, renews⟩ := fits.renews env (.user raw) member
  cases present.symm.trans before
  rw [← renews.limits_of_user] at taken
  obtain ⟨is, fresh⟩ := renews.edited raw value rfl filled taken
  exact ⟨new, found, is, fresh⟩

/-! ## Waves that spare the field -/

theorem Holds.turn (holds : s.Holds f value) (fits : s.Fits form g) (h : g.Represents form)
    (member : f ∈ form.fields) (spared : form.Spares o f) {changed : List String} {id : String}
    (turn : (g.start o).Turn changed id) : (s.refreshDependent env o changed id).Holds f value := by
  obtain ⟨unchanged, reached⟩ := h.of_turn turn
  unfold refreshDependent
  rw [fits.ofForm]
  cases found : form.field? id with
  | none => exact holds
  | some f' =>
    obtain ⟨member', rfl⟩ := Definition.mem_of_field? found
    by_cases same : f'.id = f.id
    · cases List.inj_on_of_nodup_map h.unique member' member same
      exact holds.refresh_self fits h member _ unchanged fun x met feeds =>
        spared x feeds (reached x met)
    · exact holds.refresh_other same

theorem Holds.spread (holds : s.Holds f value) (fits : s.Fits form g) (h : g.Represents form)
    (member : f ∈ form.fields) {origins : List String}
    (spared : ∀ o ∈ origins, form.Spares o f) : (s.spread env origins).Holds f value := by
  have both : (s.spread env origins).Fits form g ∧ (s.spread env origins).Holds f value := by
    refine spread_preserves (Q := fun t => t.Fits form g ∧ t.Holds f value) ?_ ⟨fits, holds⟩
    intro o started t changed id turn inv
    rw [Session.wave, fits.ofGraph] at turn
    exact ⟨inv.1.refreshDependent id, inv.2.turn inv.1 h member (spared o started) turn⟩
  exact both.2

theorem Holds.elapse (holds : s.Holds f value) (fits : s.Fits form g) (h : g.Represents form)
    (member : f ∈ form.fields) (calm : ∀ o ∈ s.waiting, form.Spares o f)
    {firings : List (Firing String)} {schedule : Schedule String}
    (elapsed : s.Elapsed firings schedule) :
    (({ s with schedule := schedule } : Session).react env firings).Holds f value := by
  have both : (({ s with schedule := schedule } : Session).react env firings).Fits form g ∧
      (({ s with schedule := schedule } : Session).react env firings).Holds f value := by
    refine react_preserves (Q := fun t => t.Fits form g ∧ t.Holds f value) ?_
      ⟨fits.of_elapsed elapsed, holds⟩
    intro t origins started inv
    refine ⟨inv.1.spread origins, inv.2.spread inv.1 h member fun o inside => ?_⟩
    exact calm o (elapsed.works.subset (List.mem_append_left _ (started o inside)))
  exact both.2

/-- An action that edits neither the field nor anything whose wave comes to what feeds it leaves a
value that is held, if no wave that waits comes there. -/
theorem Holds.act (holds : s.Holds f value) (fits : s.Fits form g) (h : g.Represents form)
    (member : f ∈ form.fields) (calm : ∀ o ∈ s.waiting, form.Spares o f) {a : Action}
    (apart : ∀ id raw, a = .edit id raw → id ≠ f.id ∧ form.Spares id f)
    (ordinary : ∀ id trigger, a ≠ .sourceChanged id trigger) : (s.act env a).Holds f value := by
  cases a with
  | edit id raw =>
    obtain ⟨differs, spared⟩ := apart id raw rfl
    rw [act_edit, fits.ofForm]
    cases found : form.field? id with
    | none => exact holds
    | some f' =>
      obtain ⟨-, rfl⟩ := Definition.mem_of_field? found
      have edited : (s.refresh env f' (.user raw)).Holds f value := holds.refresh_other differs
      dsimp only
      unfold editField
      dsimp only
      split
      · exact edited
      · refine edited.spread fits.refresh h member fun o inside => ?_
        rw [List.mem_singleton.1 inside]
        exact spared
  | sourceChanged id trigger => exact absurd rfl (ordinary id trigger)
  | sleep time => exact holds.elapse fits h member calm (fits.elapsed_advance time)
  | settle => exact holds.elapse fits h member calm fits.elapsed_settle.1

/-- What waits after such an action still spares the field. -/
theorem Fits.calm_act (fits : s.Fits form g) (calm : ∀ o ∈ s.waiting, form.Spares o f) {a : Action}
    (apart : ∀ id raw, a = .edit id raw → id ≠ f.id ∧ form.Spares id f) :
    ∀ o ∈ (s.act env a).waiting, form.Spares o f := by
  intro o waits
  rcases fits.of_waiting_act waits with before | ⟨raw, edits⟩
  · exact calm o before
  · exact (apart o raw edits).2

/-- **A run of such actions leaves a value that is held.** -/
theorem Holds.run (holds : s.Holds f value) (fits : s.Fits form g) (h : g.Represents form)
    (member : f ∈ form.fields) (calm : ∀ o ∈ s.waiting, form.Spares o f) (store : DocumentStore)
    {steps : List (Calendar.Instant × Action)}
    (apart : ∀ step ∈ steps, ∀ id raw, step.2 = .edit id raw → id ≠ f.id ∧ form.Spares id f)
    (ordinary : ∀ step ∈ steps, ∀ id trigger, step.2 ≠ .sourceChanged id trigger) :
    (s.run store steps).Holds f value := by
  induction steps generalizing s with
  | nil => exact holds
  | cons step steps ih =>
    have apart' := apart step List.mem_cons_self
    refine ih ?_ (fits.act step.2) (fits.calm_act calm apart') ?_ ?_
    · exact holds.act fits h member calm apart' (ordinary step List.mem_cons_self)
    · exact fun later inside => apart later (List.mem_cons_of_mem _ inside)
    · exact fun later inside => ordinary later (List.mem_cons_of_mem _ inside)

/-! ## After the last edit -/

/-- A wave that waits comes to something from which the value of the field is computed. -/
def Threatens (s : Session) (f : Field) : Prop :=
  ∃ o ∈ s.waiting, ∃ x, s.form.Feeds x f ∧ ReflTransGen s.form.Edge o x

theorem Fits.calm_of_not_threatens (fits : s.Fits form g) (safe : ¬ s.Threatens f) :
    ∀ o ∈ s.waiting, form.Spares o f := by
  intro o waits x feeds path
  rw [← fits.ofForm] at feeds path
  exact safe ⟨o, waits, x, feeds, path⟩

section Edited

variable {store : DocumentStore} {old : FieldState} {edited settled : Calendar.Instant}
  {after : List (Calendar.Instant × Action)}

theorem Fits.act_edit_self (fits : s.Fits form g) (h : g.Represents form)
    (member : f ∈ form.fields) : s.act env (.edit f.id raw) = s.editField env f raw := by
  rw [act_edit, fits.ofForm, Definition.field?_of_mem h.unique member]

/-- **An edit that no waiting wave threatens stands.** -/
theorem Fits.holds_after_edit (fits : s.Fits form g) (h : g.Represents form)
    (member : f ∈ form.fields) (present : s.state? f.id = some old) (filled : raw.isEmpty = false)
    (taken : coerce f.kind old.limits (.string raw) = .ok value)
    (calm : ∀ o ∈ s.waiting, form.Spares o f)
    (apart : ∀ step ∈ after, ∀ id raw, step.2 = .edit id raw →
      id ≠ f.id ∧ ¬ TransGen form.Edge id f.id)
    (ordinary : ∀ step ∈ after, ∀ id trigger, step.2 ≠ .sourceChanged id trigger) :
    (s.run store ((edited, .edit f.id raw) :: after)).Holds f value := by
  have self := h.spares_self member
  have given : (s.act ⟨store, edited⟩ (.edit f.id raw)).Holds f value := by
    have user : (s.refresh ⟨store, edited⟩ f (.user raw)).Holds f value :=
      fits.holds_user member present filled taken
    rw [fits.act_edit_self h member]
    unfold Session.editField
    dsimp only
    split
    · exact user
    · refine user.spread fits.refresh h member fun o inside => ?_
      rw [List.mem_singleton.1 inside]
      exact self
  have apart : ∀ step ∈ after, ∀ id raw, step.2 = .edit id raw →
      id ≠ f.id ∧ form.Spares id f := by
    intro step inside id raw edits
    obtain ⟨differs, below⟩ := apart step inside id raw edits
    exact ⟨differs, Definition.spares_of_not_upstream member below⟩
  refine given.run (fits.act _) h member (fun o waits => ?_) store apart ordinary
  rcases fits.of_waiting_act waits with before | ⟨raw', edits⟩
  · exact calm o before
  · cases edits
    exact self

/-- While nothing waits, an edit settles to the value that it gives. -/
theorem Fits.holds_edit_settle (fits : s.Fits form g) (h : g.Represents form)
    (member : f ∈ form.fields) (idle : s.schedule.isIdle = true) (filled : raw.isEmpty = false)
    (taken : ∀ limits, coerce f.kind limits (.string raw) = .ok value) :
    (s.run store [(edited, .edit f.id raw), (settled, .settle)]).Holds f value := by
  obtain ⟨old, present⟩ := fits.state? (List.mem_map_of_mem member)
  refine fits.holds_after_edit h member present filled (taken old.limits) ?_ ?_ ?_
  · rw [waiting_of_isIdle idle]
    exact fun o waits => absurd waits List.not_mem_nil
  · simp
  · simp

/-- While nothing waits, an edit leaves the fields that it does not feed. -/
theorem Holds.edit_settle (holds : s.Holds f value) (fits : s.Fits form g) (h : g.Represents form)
    (member : f ∈ form.fields) (idle : s.schedule.isIdle = true) (differs : o ≠ f.id)
    (spared : form.Spares o f) :
    (s.run store [(edited, .edit o raw), (settled, .settle)]).Holds f value := by
  refine holds.run fits h member ?_ store ?_ (by simp)
  · rw [waiting_of_isIdle idle]
    exact fun o waits => absurd waits List.not_mem_nil
  · intro step inside id raw edits
    rw [(Action.eq_of_edit_settle inside edits).1]
    exact ⟨differs, spared⟩

/-- A wave that comes to what feeds a field of a simple kind brings the content to it. -/
theorem brings_of_feeds (h : g.Represents form) (member : f ∈ form.fields)
    (simple : f.kind.isSimple = true) (feeds : form.Feeds x f)
    (path : ReflTransGen form.Edge o x) : (g.start o).Brings (g.context f.id .value) f.id := by
  have referred : x ∈ g.context f.id .value := by
    rcases ((h.feeds_iff member).1 feeds).2 with content | options
    · exact content
    · obtain ⟨raw, text, -⟩ := (h.mem_context member).1 options
      unfold Field.text? at text
      cases kind : f.kind with
      | dropdown choices =>
        rw [kind] at simple
        cases simple
      | _ =>
        rw [kind] at text
        cases text
  exact h.brings_of_path referred (feeds.edge member) path

/-- A wave that comes to what the content refers to brings it to the field. -/
theorem Fits.owes_of_threatens (fits : s.Fits form g) (h : g.Represents form)
    (member : f ∈ form.fields) (simple : f.kind.isSimple = true) (threat : s.Threatens f) :
    s.Owes (g.context f.id .value) f.id := by
  obtain ⟨o, waits, x, feeds, path⟩ := threat
  rw [fits.ofForm] at feeds path
  refine ⟨o, waits, ?_⟩
  rw [fits.ofGraph]
  exact brings_of_feeds h member simple feeds path

/-- **An edit that a waiting wave threatens is undone**: the field goes back to its content. -/
theorem Fits.shows_after_edit (fits : s.Fits form g) (h : g.Represents form)
    (member : f ∈ form.fields) (simple : f.kind.isSimple = true) (steady : f.Steady store .value)
    (threat : s.Threatens f) (last : ∀ step ∈ after, ∀ raw, step.2 ≠ .edit f.id raw)
    (now : Calendar.Instant)
    (idle : (s.run store ((edited, .edit f.id raw) :: after)).schedule.isIdle = true) :
    (s.run store ((edited, .edit f.id raw) :: after)).Shows store now f .value := by
  have tracks : Tracks form g store f (g.context f.id .value) fun u => u.Shows store now f .value :=
    tracks_shows h member steady
  have known := Definition.field?_of_mem h.unique member
  have owed := fits.owes_of_threatens h member simple threat
  have first : (s.act ⟨store, edited⟩ (.edit f.id raw)).Shows store now f .value ∨
      (s.act ⟨store, edited⟩ (.edit f.id raw)).Owes (g.context f.id .value) f.id := by
    rw [fits.act_edit_self h member]
    exact tracks.editField known h fits (Or.inr (Or.inr owed))
  have own : ∀ step ∈ after, ∀ raw, step.2 = .edit f.id raw → ∀ u : Session, u.Fits form g →
      u.Shows store now f .value →
        (u.refresh ⟨store, step.1⟩ f (.user raw)).Shows store now f .value :=
    fun step inside raw edits => absurd edits (last step inside raw)
  exact (tracks.run known h (fits.act _) own first).resolve_right (not_owes_of_isIdle idle)

/-- What a field shows of its content it holds, once the content fits the kind. -/
theorem Shows.holds {now : Calendar.Instant} (shown : s.Shows store now f .value)
    (simple : f.kind.isSimple = true) (limits : Limits) {content : String}
    (taken : coerce f.kind limits (f.contentBy (s.reads store now)) = .ok content) :
    s.Holds f content := by
  obtain ⟨state, found, agrees⟩ := shown
  rw [coerce_of_isSimple simple _ limits state.limits] at taken
  have plain := Kind.isDropdown_of_isSimple simple
  exact ⟨state, found, agrees simple content taken, Surroundings.hasStaleOption_of_plain plain _⟩

theorem Shows.value?_eq {now : Calendar.Instant} (shown : s.Shows store now f .value)
    (simple : f.kind.isSimple = true) {limits : Limits} {content : String}
    (taken : coerce f.kind limits (f.contentBy (s.reads store now)) = .ok content) :
    s.value? f.id = some content :=
  (shown.holds simple limits taken).value?

/-- **When the last edit of a field stands.** The value that it gives is the settled one if no wave
that waits at the edit threatens the field. If one does, the field has gone back to its content, so
that the value is the settled one just if the content happens to give it too. -/
theorem edit_stands {debounce : Nat} {u t : Session} (opened : start form debounce = .ok s)
    (first : Calendar.Instant) (before : List (Calendar.Instant × Action))
    (reached : u = (s.computeAll ⟨store, first⟩).run store before)
    (member : f ∈ form.fields) (present : u.state? f.id = some old) (filled : raw.isEmpty = false)
    (taken : coerce f.kind old.limits (.string raw) = .ok value)
    (apart : ∀ step ∈ after, ∀ id raw, step.2 = .edit id raw →
      id ≠ f.id ∧ ¬ TransGen form.Edge id f.id)
    (ordinary : ∀ step ∈ after, ∀ id trigger, step.2 ≠ .sourceChanged id trigger)
    (ran : t = u.run store ((edited, .edit f.id raw) :: after))
    (idle : t.schedule.isIdle = true) (now : Calendar.Instant) :
    (¬ u.Threatens f → t.value? f.id = some value) ∧
      (f.kind.isSimple = true → f.Steady store .value → ∀ content,
        coerce f.kind old.limits (f.contentBy (t.reads store now)) = .ok content →
          (t.value? f.id = some value ↔ ¬ u.Threatens f ∨ content = value)) := by
  have h := Graph.represents_of_ok (start_ok opened).2.1
  have fits : u.Fits form s.graph := by
    rw [reached]
    exact ((fits_start opened).computeAll ⟨store, first⟩).run store before
  subst ran
  have stands (safe : ¬ u.Threatens f) :
      (u.run store ((edited, .edit f.id raw) :: after)).value? f.id = some value := by
    have calm := fits.calm_of_not_threatens safe
    exact (fits.holds_after_edit h member present filled taken calm apart ordinary).value?
  refine ⟨stands, ?_⟩
  intro simple steady content accepted
  by_cases threat : u.Threatens f
  · have last : ∀ step ∈ after, ∀ raw, step.2 ≠ .edit f.id raw :=
      fun step inside raw edits => (apart step inside f.id raw edits).1 rfl
    have undone := fits.shows_after_edit h member simple steady threat last now idle
    rw [undone.value?_eq simple accepted, Option.some_inj]
    exact (or_iff_right (not_not_intro threat)).symm
  · exact iff_of_true (stands threat) (Or.inl threat)

end Edited

/-! ## An example -/

/-- Nothing feeds the city. -/
theorem not_transGen_city : ¬ TransGen trip.Edge o "city" := by
  have source (x : String) : ¬ trip.Edge x "city" := by
    intro edge
    obtain ⟨-, -, f, member, same, p, source, -⟩ := edge
    exact (mem_sources_trip member source).2 same
  intro path
  cases path with
  | single edge => exact source _ edge
  | tail _ edge => exact source _ edge

/-- An edit after the waves have run stands. -/
theorem edit_stands_trip : ∃ s, start trip defaultDebounce = .ok s ∧
    ∀ (store : DocumentStore) (u t : Session),
      u = (s.computeAll ⟨store, 0⟩).run store [(0, .edit "city" "Rome"), (0, .settle)] →
      t = u.run store [(0, .edit "note" "Custom"), (0, .settle)] →
      ¬ u.Threatens note ∧ t.value? "note" = some "Custom" := by
  obtain ⟨s, started⟩ := start_trip
  refine ⟨s, started, ?_⟩
  intro store u t reached ran
  have first := (fits_start started).computeAll ⟨store, 0⟩
  have fits : u.Fits trip s.graph := by
    rw [reached]
    exact first.run store _
  obtain ⟨old, present⟩ := fits.state? (List.mem_map_of_mem note_mem)
  have idle : t.schedule.isIdle = true := by
    rw [ran]
    exact (fits.act (.edit "note" "Custom")).isIdle_settle ⟨store, 0⟩
  have safe : ¬ u.Threatens note := by
    have settled : u.schedule.isIdle = true := by
      rw [reached]
      exact (first.act (.edit "city" "Rome")).isIdle_settle ⟨store, 0⟩
    intro threat
    obtain ⟨o, waits, -⟩ := threat
    rw [waiting, List.isEmpty_iff.1 settled] at waits
    exact absurd waits List.not_mem_nil
  have filled : "Custom".isEmpty = false := rfl
  have taken : coerce note.kind old.limits (.string "Custom") = .ok "Custom" := rfl
  refine ⟨safe, (edit_stands started 0 _ reached note_mem present filled taken ?_ ?_ ran idle 0).1
    safe⟩
  · simp
  · simp

theorem steady_note {store : DocumentStore} : note.Steady store .value := by
  intro raw text
  cases text
  refine ⟨fun mentioned => ?_, refersTo_city.clockFree⟩
  exact absurd (mentions_city.1 mentioned) (by decide)

/-- A wave of the city threatens the note, which is computed from the city. -/
theorem Fits.threatens_note (fits : s.Fits trip g) (waits : "city" ∈ s.waiting) :
    s.Threatens note := by
  refine ⟨"city", waits, "city", ?_, .refl⟩
  rw [fits.ofForm]
  have known : "city" ∈ trip.ids := List.mem_map_of_mem city_mem
  exact ⟨known, by decide, (.value, "{{$$.city}}"), by decide, Or.inl rfl, mentions_city.2 rfl⟩

/-- The text of the note reads as the city. -/
theorem reads_city {store : DocumentStore} {now : Calendar.Instant}
    (given : s.value? "city" = some value) : s.reads store now "{{$$.city}}" = .string value :=
  reads_reference refersTo_city (by decide +kernel) (by decide +kernel) given

/-- An edit while the wave of an earlier one waits is undone. -/
theorem edit_undone_trip : ∃ s, start trip defaultDebounce = .ok s ∧
    ∀ (store : DocumentStore) (u t : Session),
      u = (s.computeAll ⟨store, 0⟩).run store [(0, .edit "city" "Rome")] →
      t = u.run store [(0, .edit "note" "Custom"), (0, .settle)] →
      (∀ limits, coerce note.kind limits (.string "Custom") = .ok "Custom") ∧
        t.schedule.isIdle = true ∧ t.value? "note" = some "Rome" := by
  obtain ⟨s, started⟩ := start_trip
  have h := Graph.represents_of_ok (start_ok started).2.1
  refine ⟨s, started, ?_⟩
  intro store u t reached ran
  have first := (fits_start started).computeAll ⟨store, 0⟩
  have edited : u = (s.computeAll ⟨store, 0⟩).editField ⟨store, 0⟩ city "Rome" :=
    reached.trans (first.act_edit_self h city_mem)
  have fits : u.Fits trip s.graph := by
    rw [edited]
    exact first.editField city "Rome"
  have idle : t.schedule.isIdle = true := by
    rw [ran]
    exact (fits.act (.edit "note" "Custom")).isIdle_settle ⟨store, 0⟩
  -- Nothing waits before the first edit, and nothing feeds the city: it keeps what it was given.
  have given : t.value? "city" = some "Rome" := by
    obtain ⟨old, present⟩ := first.state? (List.mem_map_of_mem city_mem)
    have calm : ∀ o ∈ (s.computeAll ⟨store, 0⟩).waiting, trip.Spares o city := by
      rw [waiting_computeAll, waiting, (start_ok started).2.2.2]
      exact fun _ absurd => by cases absurd
    have held : ((s.computeAll ⟨store, 0⟩).run store ((0, .edit city.id "Rome") ::
        [(0, .edit "note" "Custom"), (0, .settle)])).Holds city "Rome" := by
      refine first.holds_after_edit h city_mem present rfl rfl calm ?_ ?_
      · simp [city, not_transGen_city]
      · simp
    rw [ran, reached]
    exact held.value?
  have threat : u.Threatens note := by
    refine fits.threatens_note ?_
    rw [edited]
    exact first.waiting_editField city "Rome" rfl
  have shown : t.Shows store 0 note .value := by
    rw [ran] at idle ⊢
    refine fits.shows_after_edit h note_mem rfl steady_note threat ?_ 0 idle
    simp
  have content : note.contentBy (t.reads store 0) = .string "Rome" := reads_city given
  have taken : coerce note.kind {} (note.contentBy (t.reads store 0)) = .ok "Rome" := by
    rw [content]
    rfl
  exact ⟨fun _ => rfl, idle, shown.value?_eq rfl taken⟩

end Session

end Formulary.Form
