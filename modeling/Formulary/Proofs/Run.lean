import Formulary.Proofs.Waves

/-!
# Runs of a session

What happens to an open form is a list of actions, each in its environment (`actAll`), which may be
one store at several instants (`run`). Between actions a field is either up to date in some respect
or the wave of a change that concerns it still waits (`Follows.actAll`, `Tracks.run`); once nothing
waits, it is up to date.
-/

namespace Formulary.Form

/-! ## Timers -/

namespace Schedule

/-- A timer that fires leaves the others: waves take no time. -/
theorem fired_waveTime (now : Nat) (t : Timer String) (others : List (Timer String)) :
    fired Session.waveTime now t others = others := by
  unfold fired
  cases t.key <;> rfl

/-- Firing starts waves and leaves timers: together they are what waited. -/
theorem runFrom_waiting (horizon : Option Nat) (now : Nat) {timers : List (Timer String)}
    (keyed : ∀ t ∈ timers, t.key = some t.work) :
    ((runFrom Session.waveTime horizon now timers).1.filterMap Session.startedOrigin? ++
        (runFrom Session.waveTime horizon now timers).2.2.map Timer.work).Perm
      (timers.map Timer.work) ∧
    (runFrom Session.waveTime horizon now timers).2.2 ⊆ timers ∧
    (horizon = none → (runFrom Session.waveTime horizon now timers).2.2 = []) := by
  fun_induction runFrom Session.waveTime horizon now timers with
  | case1 now => exact ⟨List.Perm.refl _, List.Subset.refl _, fun _ => rfl⟩
  | case2 now t rest first due later firings last left ran ih =>
    have taken := earliest_perm t rest
    rw [fired_waveTime] at ran ih
    obtain ⟨works, sub, all⟩ :=
      ih fun u member => keyed u (taken.subset (List.mem_cons_of_mem _ member))
    rw [ran] at works sub all
    have started : Session.startedOrigin? ⟨later, Timer.event first⟩ = some first.work := by
      rw [Timer.event, keyed first (taken.subset List.mem_cons_self)]
      rfl
    refine ⟨?_, fun u member => taken.subset (List.mem_cons_of_mem _ (sub member)), all⟩
    rw [List.filterMap_cons_some started, List.cons_append]
    exact (works.cons first.work).trans (taken.map Timer.work)
  | case3 now t rest first due =>
    refine ⟨List.Perm.refl _, List.Subset.refl _, ?_⟩
    rintro rfl
    exact absurd rfl due

end Schedule

namespace Session

variable {s : Session} {form : Definition} {g : Graph} {env : Environment}

/-- The fields whose waves wait. -/
def waiting (s : Session) : List String := s.schedule.timers.map Timer.work

/-- Time has passed: what waited has started or still waits. -/
structure Elapsed (s : Session) (firings : List (Firing String)) (schedule : Schedule String) :
    Prop where
  works : (firings.filterMap startedOrigin? ++ schedule.timers.map Timer.work).Perm s.waiting
  left : schedule.timers ⊆ s.schedule.timers

theorem Fits.elapsed_advance (h : s.Fits form g) (time : Nat) :
    s.Elapsed (s.schedule.advance waveTime time).1 (s.schedule.advance waveTime time).2 := by
  obtain ⟨works, left, -⟩ :=
    Schedule.runFrom_waiting (some (s.schedule.now + time)) s.schedule.now h.timers
  exact ⟨works, left⟩

theorem Fits.elapsed_settle (h : s.Fits form g) :
    s.Elapsed (s.schedule.settle waveTime).1 (s.schedule.settle waveTime).2 ∧
      (s.schedule.settle waveTime).2.timers = [] := by
  obtain ⟨works, left, all⟩ := Schedule.runFrom_waiting none s.schedule.now h.timers
  exact ⟨⟨works, left⟩, all rfl⟩

/-- What spreading started changes preserves, reacting to firings preserves. -/
theorem react_preserves {Q : Session → Prop} {firings : List (Firing String)}
    (step : ∀ t origins, (∀ o ∈ origins, o ∈ firings.filterMap startedOrigin?) → Q t →
      Q (t.spread env origins))
    (holds : Q s) : Q (s.react env firings) := by
  unfold react
  rw [← List.flatten_splitBy (fun a b => a.time == b.time) firings] at step
  generalize firings.splitBy (fun a b => a.time == b.time) = groups at step ⊢
  induction groups generalizing s with
  | nil => exact holds
  | cons group groups ih =>
    rw [List.flatten_cons, List.filterMap_append] at step
    refine ih (step s _ (fun o member => List.mem_append_left _ member) holds) ?_
    intro t origins started
    exact step t origins fun o member => List.mem_append_right _ (started o member)

theorem Fits.react (h : s.Fits form g) (firings : List (Firing String)) :
    (s.react env firings).Fits form g :=
  react_preserves (Q := fun t => t.Fits form g) (fun _ origins _ fits => fits.spread origins) h

theorem schedule_react (firings : List (Firing String)) :
    (s.react env firings).schedule = s.schedule :=
  react_preserves (Q := fun t => t.schedule = s.schedule)
    (fun _ origins _ same => (schedule_spread origins).trans same) rfl

theorem waiting_react (firings : List (Firing String)) :
    (s.react env firings).waiting = s.waiting := by
  unfold waiting
  rw [schedule_react]

theorem waiting_propagate (origin : String) : (s.propagate env origin).waiting = s.waiting := by
  unfold waiting propagate
  rw [schedule_spread]

/-- Once all has settled nothing waits. -/
theorem Fits.isIdle_settle (h : s.Fits form g) (env : Environment) :
    (s.settle env).schedule.isIdle = true := by
  have none : (s.settle env).schedule.timers = [] := by
    unfold Session.settle
    dsimp only
    rw [schedule_react]
    exact h.elapsed_settle.2
  rw [Schedule.isIdle, none]
  rfl

theorem waiting_of_isIdle (idle : s.schedule.isIdle = true) : s.waiting = [] := by
  rw [waiting, List.isEmpty_iff.1 idle]
  rfl

/-- While nothing waits, settling changes nothing. -/
theorem settle_of_isIdle (idle : s.schedule.isIdle = true) : s.settle env = s := by
  have none : s.schedule.settle waveTime = ([], s.schedule) := by
    unfold Schedule.settle
    rw [List.isEmpty_iff.1 idle, Schedule.runFrom]
    dsimp only
    rw [← List.isEmpty_iff.1 idle]
  unfold settle
  rw [none]
  rfl

/-! ## Actions -/

/-- What happens to an open form. -/
inductive Action where
  | edit (id raw : String)
  | sourceChanged (id trigger : String)
  | sleep (time : Nat)
  | settle

/-- Carries an action out; one on a field that does not exist changes nothing. -/
def act (env : Environment) (s : Session) : Action → Session
  | .edit id raw => (s.edit? env id raw).toOption.getD s
  | .sourceChanged id trigger => (s.sourceChanged? env id trigger).toOption.getD s
  | .sleep time => s.sleep env time
  | .settle => s.settle env

theorem act_edit (id raw : String) : s.act env (.edit id raw) =
    match s.form.field? id with
    | some f => s.editField env f raw
    | none => s := by
  show (s.edit? env id raw).toOption.getD s = _
  unfold edit? field?
  cases s.form.field? id <;> rfl

theorem act_sourceChanged (id trigger : String) : s.act env (.sourceChanged id trigger) =
    match s.form.field? id with
    | some f => (s.refresh env f (.others [trigger] trigger)).propagate env id
    | none => s := by
  show (s.sourceChanged? env id trigger).toOption.getD s = _
  unfold sourceChanged? field?
  cases s.form.field? id <;> rfl

/-- The field in which the wave of an action starts. -/
def Action.origin? : Action → Option String
  | .edit id _ | .sourceChanged id _ => some id
  | .sleep _ | .settle => none

theorem Action.edit_of_origin? {a : Action} {o : String} (origin : a.origin? = some o)
    (ordinary : ∀ id trigger, a ≠ .sourceChanged id trigger) : ∃ raw, a = .edit o raw := by
  cases a with
  | edit id raw =>
    cases origin
    exact ⟨raw, rfl⟩
  | sourceChanged id trigger => exact absurd rfl (ordinary id trigger)
  | sleep time | settle => cases origin

/-- An edit and the time until nothing waits edit nothing else. -/
theorem Action.eq_of_edit_settle {α : Type} {edited settled : α} {id o raw raw' : String}
    {step : α × Action} (inside : step ∈ [(edited, .edit id raw), (settled, .settle)])
    (edits : step.2 = .edit o raw') : o = id ∧ raw' = raw := by
  simp only [List.mem_cons, List.not_mem_nil, or_false] at inside
  rcases inside with rfl | rfl
  · cases edits
    exact ⟨rfl, rfl⟩
  · cases edits

/-- While nothing waits, they start no wave but that of the edit. -/
theorem eq_of_edit_settle (idle : s.schedule.isIdle = true) {α : Type} {edited settled : α}
    {id o raw : String}
    (starts : o ∈ s.waiting ∨ ∃ step ∈ [(edited, Action.edit id raw), (settled, .settle)],
      ∃ raw', step.2 = .edit o raw') : o = id := by
  rcases starts with waits | ⟨step, inside, raw', edits⟩
  · rw [waiting_of_isIdle idle] at waits
    cases waits
  · exact (Action.eq_of_edit_settle inside edits).1

/-- Carries actions out, each in its environment. -/
def actAll (s : Session) (steps : List (Environment × Action)) : Session :=
  steps.foldl (fun s step => s.act step.1 step.2) s

/-- Carries actions out, each at its instant. -/
def run (store : DocumentStore) (s : Session) (steps : List (Calendar.Instant × Action)) :
    Session :=
  steps.foldl (fun s step => s.act ⟨store, step.1⟩ step.2) s

theorem run_append (s : Session) (store : DocumentStore)
    (before after : List (Calendar.Instant × Action)) :
    s.run store (before ++ after) = (s.run store before).run store after :=
  List.foldl_append

theorem run_eq_actAll (s : Session) (store : DocumentStore)
    (steps : List (Calendar.Instant × Action)) :
    s.run store steps = s.actAll (steps.map fun step => (⟨store, step.1⟩, step.2)) := by
  unfold run actAll
  rw [List.foldl_map]

theorem Fits.of_elapsed (h : s.Fits form g) {firings : List (Firing String)}
    {schedule : Schedule String} (elapsed : s.Elapsed firings schedule) :
    ({ s with schedule := schedule } : Session).Fits form g where
  ofForm := h.ofForm
  ofGraph := h.ofGraph
  keys := h.keys
  timers := fun t member => h.timers t (elapsed.left member)

theorem Fits.request (h : s.Fits form g) (id : String) :
    ({ s with schedule := s.schedule.request id id } : Session).Fits form g where
  ofForm := h.ofForm
  ofGraph := h.ofGraph
  keys := h.keys
  timers := by
    intro t member
    rcases List.mem_append.1 member with kept | new
    · exact h.timers t (List.mem_filter.1 kept).1
    · rw [List.mem_singleton.1 new]

/-- A request adds its field to those whose waves wait. -/
theorem Fits.waiting_request (h : s.Fits form g) {id o : String} :
    o ∈ ({ s with schedule := s.schedule.request id id } : Session).waiting ↔
      o ∈ s.waiting ∨ o = id := by
  unfold waiting Schedule.request Schedule.without
  rw [List.map_append, List.mem_append, List.map_singleton, List.mem_singleton]
  constructor
  · rintro (kept | new)
    · obtain ⟨t, member, rfl⟩ := List.mem_map.1 kept
      exact Or.inl (List.mem_map_of_mem (List.mem_filter.1 member).1)
    · exact Or.inr new
  · rintro (old | new)
    · by_cases same : o = id
      · exact Or.inr same
      · obtain ⟨t, member, rfl⟩ := List.mem_map.1 old
        refine Or.inl (List.mem_map_of_mem (List.mem_filter.2 ⟨member, ?_⟩))
        rw [h.timers t member]
        simpa using same
    · exact Or.inr new

/-- After an edit of a continuous field its wave waits. -/
theorem Fits.waiting_editField (h : s.Fits form g) (f : Field) (raw : String)
    (continuous : f.kind.isContinuous = true) : f.id ∈ (s.editField env f raw).waiting := by
  unfold Session.editField
  rw [if_pos continuous]
  exact h.refresh.waiting_request.2 (Or.inr rfl)

/-- What waits after an edit waited before, or is the field that was edited. -/
theorem Fits.of_waiting_editField (h : s.Fits form g) {f : Field} {raw o : String}
    (waits : o ∈ (s.editField env f raw).waiting) : o ∈ s.waiting ∨ o = f.id := by
  unfold Session.editField at waits
  dsimp only at waits
  split at waits
  · exact h.refresh.waiting_request.1 waits
  · rw [waiting_propagate] at waits
    exact Or.inl waits

theorem Fits.editField (h : s.Fits form g) (f : Field) (raw : String) :
    (s.editField env f raw).Fits form g := by
  unfold Session.editField
  dsimp only
  split
  · exact h.refresh.request f.id
  · exact h.refresh.spread _

theorem Fits.act (h : s.Fits form g) (a : Action) : (s.act env a).Fits form g := by
  cases a with
  | edit id raw =>
    rw [act_edit]
    cases s.form.field? id with
    | none => exact h
    | some f => exact h.editField f raw
  | sourceChanged id trigger =>
    rw [act_sourceChanged]
    cases s.form.field? id with
    | none => exact h
    | some f => exact h.refresh.spread _
  | sleep time => exact (h.of_elapsed (h.elapsed_advance time)).react _
  | settle => exact (h.of_elapsed h.elapsed_settle.1).react _

/-- What waits after some time waited before. -/
theorem Elapsed.of_waiting {firings : List (Firing String)} {schedule : Schedule String}
    (elapsed : s.Elapsed firings schedule) {o : String}
    (waits : o ∈ (({ s with schedule := schedule } : Session).react env firings).waiting) :
    o ∈ s.waiting := by
  rw [waiting_react] at waits
  exact elapsed.works.subset (List.mem_append_right _ waits)

/-- What waits after an action waited before, or is the field that was edited. -/
theorem Fits.of_waiting_act (h : s.Fits form g) {a : Action} {o : String}
    (waits : o ∈ (s.act env a).waiting) : o ∈ s.waiting ∨ ∃ raw, a = .edit o raw := by
  cases a with
  | edit id raw =>
    rw [act_edit, h.ofForm] at waits
    cases found : form.field? id with
    | none =>
      rw [found] at waits
      exact Or.inl waits
    | some f =>
      rw [found] at waits
      obtain ⟨-, rfl⟩ := Definition.mem_of_field? found
      rcases h.of_waiting_editField waits with before | rfl
      · exact Or.inl before
      · exact Or.inr ⟨raw, rfl⟩
  | sourceChanged id trigger =>
    rw [act_sourceChanged] at waits
    cases found : s.form.field? id with
    | none =>
      rw [found] at waits
      exact Or.inl waits
    | some f =>
      rw [found] at waits
      dsimp only at waits
      rw [waiting_propagate] at waits
      exact Or.inl waits
  | sleep time => exact Or.inl ((h.elapsed_advance time).of_waiting waits)
  | settle => exact Or.inl (h.elapsed_settle.1.of_waiting waits)

theorem Fits.actAll (h : s.Fits form g) (steps : List (Environment × Action)) :
    (s.actAll steps).Fits form g := by
  induction steps generalizing s with
  | nil => exact h
  | cons step steps ih => exact ih (h.act step.2)

theorem Fits.run (h : s.Fits form g) (store : DocumentStore)
    (steps : List (Calendar.Instant × Action)) : (s.run store steps).Fits form g := by
  rw [run_eq_actAll]
  exact h.actAll _

end Session

/-! ## Facts about a field -/

/-- Some wave that waits brings the context to the field. -/
def Session.Owes (s : Session) (context : List String) (id : String) : Prop :=
  ∃ o ∈ s.waiting, (s.graph.start o).Brings context id

namespace Follows

open Session

variable {E : Environment → Prop} {A : List String → Prop} {s : Session} {form : Definition}
  {g : Graph} {env : Environment} {f f' : Field} {context : List String} {P : Session → Prop}
  {change : Change} {rest : Prop}

/-- The wave of a field of the context brings the context. -/
theorem brings_start (t : Follows E A form g f context P) (h : g.Represents form) {x : String}
    (read : x ∈ context) : (g.start x).Brings context f.id :=
  h.brings_of_path read (t.sources x read) .refl

/-- Computing another field leaves the fact alone, or its wave brings it about again. -/
theorem refresh_other (t : Follows E A form g f context P) (inside : E env)
    (h : g.Represents form) (fits : s.Fits form g) (differs : f'.id ≠ f.id) (inv : P s ∨ rest) :
    P (s.refresh env f' change) ∨ (g.start f'.id).Brings context f.id ∨ rest := by
  by_cases read : f'.id ∈ context
  · exact Or.inr (Or.inl (t.brings_start h read))
  · exact inv.imp (t.others s env f' change inside fits differs read) Or.inr

/-- The wave of one field spreads at once. -/
theorem propagate (t : Follows E A form g f context P) (inside : E env)
    (known : form.field? f.id = some f) (h : g.Represents form) (fits : s.Fits form g)
    {origin : String} (admits : g.Admits A f.id origin)
    (inv : P s ∨ (g.start origin).Brings context f.id ∨ s.Owes context f.id) :
    P (s.propagate env origin) ∨ (s.propagate env origin).Owes context f.id := by
  have owed : (s.propagate env origin).Owes context f.id ↔ s.Owes context f.id := by
    have graph : (s.propagate env origin).graph = s.graph :=
      (fits.spread _).ofGraph.trans fits.ofGraph.symm
    unfold Owes
    rw [waiting_propagate, graph]
  rw [owed]
  refine t.spread inside known h fits (fun o only => ?_)
    (inv.imp_right (Or.imp_left fun brings => ?_))
  · rw [List.mem_singleton.1 only]
    exact admits
  · exact ⟨origin, List.mem_singleton_self origin, brings⟩

/-- After some time: what waited has run or still waits. -/
theorem elapse (t : Follows E A form g f context P) (inside : E env)
    (known : form.field? f.id = some f) (h : g.Represents form) (fits : s.Fits form g)
    {firings : List (Firing String)} {schedule : Schedule String}
    (elapsed : s.Elapsed firings schedule) (admits : ∀ o ∈ s.waiting, g.Admits A f.id o)
    (inv : P s ∨ s.Owes context f.id) :
    P (({ s with schedule := schedule } : Session).react env firings) ∨
      (({ s with schedule := schedule } : Session).react env firings).Owes context f.id := by
  have fits' := fits.of_elapsed elapsed
  have owed : (({ s with schedule := schedule } : Session).react env firings).Owes context f.id ↔
      ∃ o ∈ schedule.timers.map Timer.work, (g.start o).Brings context f.id := by
    unfold Owes
    rw [waiting_react, (fits'.react _).ofGraph]
    rfl
  rw [owed]
  refine t.react inside known h fits' (fun o started => ?_) ?_
  · exact admits o (elapsed.works.subset (List.mem_append_left _ started))
  · rcases inv with holds | ⟨o, member, brings⟩
    · exact Or.inl (t.timeless s schedule holds)
    · rw [fits.ofGraph] at brings
      rcases List.mem_append.1 (elapsed.works.symm.subset member) with started | left
      · exact Or.inr (Or.inl ⟨o, started, brings⟩)
      · exact Or.inr (Or.inr ⟨o, left, brings⟩)

/-- The user edits a field, and its wave waits or spreads. -/
theorem editField (t : Follows E A form g f context P) (inside : E env)
    (known : form.field? f.id = some f) (h : g.Represents form) (fits : s.Fits form g)
    {raw : String} (admits : g.Admits A f.id f'.id)
    (inv : P (s.refresh env f' (.user raw)) ∨ (g.start f'.id).Brings context f.id ∨
      s.Owes context f.id) :
    P (s.editField env f' raw) ∨ (s.editField env f' raw).Owes context f.id := by
  unfold Session.editField
  dsimp only
  split
  · rcases inv with holds | brings | ⟨o, member, brings⟩
    · exact Or.inl (t.timeless _ _ holds)
    · rw [← fits.ofGraph] at brings
      exact Or.inr ⟨f'.id, fits.refresh.waiting_request.2 (Or.inr rfl), brings⟩
    · exact Or.inr ⟨o, fits.refresh.waiting_request.2 (Or.inl member), brings⟩
  · exact t.propagate inside known h fits.refresh admits inv

/-- **One action.** A fact that holds or is owed does so after any action that is admitted; of an
edit of the field itself this has to be known. -/
theorem act (t : Follows E A form g f context P) (inside : E env)
    (known : form.field? f.id = some f) (h : g.Represents form) (fits : s.Fits form g) (a : Action)
    (own : ∀ raw, a = .edit f.id raw → P s → P (s.refresh env f (.user raw)))
    (admits : ∀ o, o ∈ s.waiting ∨ a.origin? = some o → g.Admits A f.id o)
    (direct : ∀ trigger, a = .sourceChanged f.id trigger → A [trigger])
    (inv : P s ∨ s.Owes context f.id) :
    P (s.act env a) ∨ (s.act env a).Owes context f.id := by
  have same {f' : Field} (found : form.field? f'.id = some f') (ids : f'.id = f.id) : f' = f := by
    rw [ids, known] at found
    exact (Option.some.inj found).symm
  have waiting : ∀ o ∈ s.waiting, g.Admits A f.id o := fun o waits => admits o (Or.inl waits)
  cases a with
  | edit id raw =>
    rw [act_edit, fits.ofForm]
    cases found : form.field? id with
    | none => exact inv
    | some f' =>
      obtain ⟨-, rfl⟩ := Definition.mem_of_field? found
      refine t.editField inside known h fits (admits f'.id (Or.inr rfl)) ?_
      by_cases ids : f'.id = f.id
      · cases same found ids
        exact inv.imp (own raw rfl) Or.inr
      · exact t.refresh_other inside h fits ids inv
  | sourceChanged id trigger =>
    rw [act_sourceChanged, fits.ofForm]
    cases found : form.field? id with
    | none => exact inv
    | some f' =>
      obtain ⟨-, rfl⟩ := Definition.mem_of_field? found
      refine t.propagate inside known h fits.refresh (admits f'.id (Or.inr rfl)) ?_
      by_cases ids : f'.id = f.id
      · cases same found ids
        have admitted := direct trigger rfl
        by_cases met : ∃ x ∈ context, x ∈ [trigger]
        · exact Or.inl (t.renewed s env [trigger] trigger inside admitted fits met)
        · exact inv.imp (t.kept s env [trigger] trigger inside admitted fits met) Or.inr
      · exact t.refresh_other inside h fits ids inv
  | sleep time => exact t.elapse inside known h fits (fits.elapsed_advance time) waiting inv
  | settle => exact t.elapse inside known h fits fits.elapsed_settle.1 waiting inv

/-- What is admitted to start from now on is admitted after an action. -/
theorem admits_act (fits : s.Fits form g) {id : String} {step : Environment × Action}
    {steps : List (Environment × Action)}
    (admits : ∀ o, (o ∈ s.waiting ∨ ∃ step' ∈ step :: steps, step'.2.origin? = some o) →
      g.Admits A id o) :
    ∀ o, (o ∈ (s.act step.1 step.2).waiting ∨ ∃ step' ∈ steps, step'.2.origin? = some o) →
      g.Admits A id o := by
  rintro o (waits | ⟨later, member, starts⟩)
  · rcases fits.of_waiting_act waits with before | ⟨raw, edits⟩
    · exact admits o (Or.inl before)
    · exact admits o (Or.inr ⟨step, List.mem_cons_self, by rw [edits]; rfl⟩)
  · exact admits o (Or.inr ⟨later, List.mem_cons_of_mem _ member, starts⟩)

/-- **Runs.** What holds or is owed does so after any run that is admitted, if its edits of the
field itself leave it alone. -/
theorem actAll (t : Follows E A form g f context P) (known : form.field? f.id = some f)
    (h : g.Represents form) (fits : s.Fits form g) {steps : List (Environment × Action)}
    (inside : ∀ step ∈ steps, E step.1)
    (own : ∀ step ∈ steps, ∀ raw, step.2 = .edit f.id raw → ∀ s : Session, s.Fits form g → P s →
      P (s.refresh step.1 f (.user raw)))
    (admits : ∀ o, (o ∈ s.waiting ∨ ∃ step ∈ steps, step.2.origin? = some o) → g.Admits A f.id o)
    (direct : ∀ step ∈ steps, ∀ trigger, step.2 = .sourceChanged f.id trigger → A [trigger])
    (inv : P s ∨ s.Owes context f.id) :
    P (s.actAll steps) ∨ (s.actAll steps).Owes context f.id := by
  induction steps generalizing s with
  | nil => exact inv
  | cons step steps ih =>
    have here := List.mem_cons_self (a := step) (l := steps)
    refine ih (fits.act step.2) (fun later member => inside later (List.mem_cons_of_mem _ member))
      (fun later member => own later (List.mem_cons_of_mem _ member)) (admits_act fits admits)
      (fun later member => direct later (List.mem_cons_of_mem _ member)) ?_
    refine t.act (inside step here) known h fits step.2
      (fun raw edits => own step here raw edits s fits) (fun o starts => ?_) (direct step here) inv
    exact admits o (starts.imp_right fun starts => ⟨step, here, starts⟩)

/-- **Runs from an edit on.** An edit that brings the fact about, at once or by its wave, settles
it from then on. -/
theorem actAll_edit (t : Follows E A form g f context P) (known : form.field? f.id = some f)
    (h : g.Represents form) (fits : s.Fits form g) {raw : String}
    {steps : List (Environment × Action)} (edited : form.field? f'.id = some f')
    (inside : ∀ step ∈ (env, Action.edit f'.id raw) :: steps, E step.1)
    (own : ∀ step ∈ steps, ∀ raw, step.2 = .edit f.id raw → ∀ s : Session, s.Fits form g → P s →
      P (s.refresh step.1 f (.user raw)))
    (admits : ∀ o, (o ∈ s.waiting ∨ ∃ step ∈ (env, Action.edit f'.id raw) :: steps,
      step.2.origin? = some o) → g.Admits A f.id o)
    (direct : ∀ step ∈ steps, ∀ trigger, step.2 = .sourceChanged f.id trigger → A [trigger])
    (brought : P (s.refresh env f' (.user raw)) ∨ (g.start f'.id).Brings context f.id) :
    P (s.actAll ((env, .edit f'.id raw) :: steps)) ∨
      (s.actAll ((env, .edit f'.id raw) :: steps)).Owes context f.id := by
  have first : s.act env (.edit f'.id raw) = s.editField env f' raw := by
    rw [act_edit, fits.ofForm, edited]
  refine t.actAll known h (fits.act _)
    (fun step member => inside step (List.mem_cons_of_mem _ member)) own (admits_act fits admits)
    direct ?_
  rw [first]
  exact t.editField (inside _ List.mem_cons_self) known h fits
    (admits f'.id (Or.inr ⟨_, List.mem_cons_self, rfl⟩)) (brought.imp_right Or.inl)

theorem exists_of_timed {store : DocumentStore} {steps : List (Calendar.Instant × Action)}
    {o : String}
    (starts : ∃ step ∈ steps.map fun step => (Environment.mk store step.1, step.2),
      step.2.origin? = some o) :
    ∃ step ∈ steps, step.2.origin? = some o := by
  obtain ⟨step, member, starts⟩ := starts
  obtain ⟨timed, inside, rfl⟩ := List.mem_map.1 member
  exact ⟨timed, inside, starts⟩

/-- **Runs over one store.** -/
theorem run {store : DocumentStore}
    (t : Follows (fun env => env.store = store) A form g f context P)
    (known : form.field? f.id = some f) (h : g.Represents form) (fits : s.Fits form g)
    {steps : List (Calendar.Instant × Action)}
    (own : ∀ step ∈ steps, ∀ raw, step.2 = .edit f.id raw → ∀ s : Session, s.Fits form g → P s →
      P (s.refresh ⟨store, step.1⟩ f (.user raw)))
    (admits : ∀ o, (o ∈ s.waiting ∨ ∃ step ∈ steps, step.2.origin? = some o) → g.Admits A f.id o)
    (direct : ∀ step ∈ steps, ∀ trigger, step.2 = .sourceChanged f.id trigger → A [trigger])
    (inv : P s ∨ s.Owes context f.id) :
    P (s.run store steps) ∨ (s.run store steps).Owes context f.id := by
  rw [run_eq_actAll]
  refine t.actAll known h fits (List.forall_mem_map.2 fun _ _ => rfl)
    (List.forall_mem_map.2 own) (fun o starts => admits o (starts.imp_right ?_))
    (List.forall_mem_map.2 direct) inv
  exact exists_of_timed

/-- **Runs over one store from an edit on.** -/
theorem run_edit {store : DocumentStore}
    (t : Follows (fun env => env.store = store) A form g f context P)
    (known : form.field? f.id = some f) (h : g.Represents form) (fits : s.Fits form g)
    {now : Calendar.Instant} {raw : String} {steps : List (Calendar.Instant × Action)}
    (edited : form.field? f'.id = some f')
    (own : ∀ step ∈ steps, ∀ raw, step.2 = .edit f.id raw → ∀ s : Session, s.Fits form g → P s →
      P (s.refresh ⟨store, step.1⟩ f (.user raw)))
    (admits : ∀ o, (o ∈ s.waiting ∨ ∃ step ∈ (now, Action.edit f'.id raw) :: steps,
      step.2.origin? = some o) → g.Admits A f.id o)
    (direct : ∀ step ∈ steps, ∀ trigger, step.2 = .sourceChanged f.id trigger → A [trigger])
    (brought : P (s.refresh ⟨store, now⟩ f' (.user raw)) ∨
      (g.start f'.id).Brings context f.id) :
    P (s.run store ((now, .edit f'.id raw) :: steps)) ∨
      (s.run store ((now, .edit f'.id raw) :: steps)).Owes context f.id := by
  have admits : ∀ o, (o ∈ s.waiting ∨ ∃ step ∈ ((now, Action.edit f'.id raw) :: steps).map
      fun step => (Environment.mk store step.1, step.2), step.2.origin? = some o) →
      g.Admits A f.id o :=
    fun o starts => admits o (starts.imp_right exists_of_timed)
  rw [run_eq_actAll]
  exact t.actAll_edit known h fits edited
    (List.forall_mem_map.2 fun _ _ => rfl : ∀ step ∈ ((now, Action.edit f'.id raw) :: steps).map
      fun step => (Environment.mk store step.1, step.2), step.1.store = store)
    (List.forall_mem_map.2 own) admits (List.forall_mem_map.2 direct) brought

end Follows

namespace Tracks

open Session

variable {s : Session} {form : Definition} {g : Graph} {store : DocumentStore} {f f' : Field}
  {context : List String} {P : Session → Prop} {now : Calendar.Instant}

/-- The user edits a field, and its wave waits or spreads. -/
theorem editField (t : Tracks form g store f context P) (known : form.field? f.id = some f)
    (h : g.Represents form) (fits : s.Fits form g) {raw : String}
    (inv : P (s.refresh ⟨store, now⟩ f' (.user raw)) ∨ (g.start f'.id).Brings context f.id ∨
      s.Owes context f.id) :
    P (s.editField ⟨store, now⟩ f' raw) ∨ (s.editField ⟨store, now⟩ f' raw).Owes context f.id :=
  t.follows.editField rfl known h fits (fun _ _ => trivial) inv

/-- **Runs over one store.** What holds or is owed does so after any run whose edits of the field
itself leave it alone. -/
theorem run (t : Tracks form g store f context P) (known : form.field? f.id = some f)
    (h : g.Represents form) (fits : s.Fits form g) {steps : List (Calendar.Instant × Action)}
    (own : ∀ step ∈ steps, ∀ raw, step.2 = .edit f.id raw → ∀ s : Session, s.Fits form g → P s →
      P (s.refresh ⟨store, step.1⟩ f (.user raw)))
    (inv : P s ∨ s.Owes context f.id) :
    P (s.run store steps) ∨ (s.run store steps).Owes context f.id :=
  t.follows.run known h fits own (fun _ _ _ _ => trivial) (fun _ _ _ _ => trivial) inv

end Tracks

/-- Once nothing waits, nothing is owed. -/
theorem Session.not_owes_of_isIdle {s : Session} {context : List String} {id : String}
    (idle : s.schedule.isIdle = true) : ¬ s.Owes context id := by
  intro facts
  obtain ⟨o, member, -⟩ := facts
  rw [Session.waiting_of_isIdle idle] at member
  exact absurd member List.not_mem_nil

end Formulary.Form
