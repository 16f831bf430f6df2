import Formulary.Form.Submission
import Formulary.Proofs.Settled

/-!
# The sessions that a form comes to

`Reached` is the closure of the opened session under everything that is done to an open form. A fact
about sessions is `Preserved` when computing fields preserves it and it says nothing of the schedule
and of the record; then every step preserves it (`Preserved.act`, `Preserved.submit`). A fact about
a field and its state `Lasts` when it holds of the first state and computing the field preserves it,
from whatever else the computation reads.

* `Reached.upholds`: what lasts holds of every field of every session that a form comes to.
-/

namespace Formulary.Form

/-- A fact about the fields of a form and their states that holds at first, and that computing the
field preserves. -/
structure Lasts (form : Definition) (P : Field → FieldState → Prop) : Prop where
  created : ∀ f ∈ form.fields, P f (FieldState.created f)
  refreshed : ∀ f ∈ form.fields, ∀ (s : Surroundings) (change : Change) (state : FieldState),
    P f state → P f (outcome (s.refresh f change) state).own
  marked : ∀ f ∈ form.fields, ∀ state : FieldState,
    P f state → P f { state with initialized := true }

namespace Session

variable {s : Session} {form : Definition} {g : Graph} {debounce : Nat} {env : Environment}
  {f : Field} {change : Change} {P : Field → FieldState → Prop}

/-- The sessions that a form comes to, in whatever surroundings each thing is done. -/
inductive Reached (form : Definition) (debounce : Nat) : Session → Prop
  | opened {s : Session} : start form debounce = .ok s → Reached form debounce s
  | computed {s : Session} (env : Environment) (id : String) :
    Reached form debounce s → Reached form debounce ((s.compute? env id).toOption.getD s)
  | allComputed {s : Session} (env : Environment) :
    Reached form debounce s → Reached form debounce (s.computeAll env)
  | acted {s : Session} (env : Environment) (a : Action) :
    Reached form debounce s → Reached form debounce (s.act env a)
  | drained {s : Session} : Reached form debounce s → Reached form debounce s.drain.2.2
  | submitted {s : Session} (env : Environment) :
    Reached form debounce s → Reached form debounce (s.submit env).2

/-- The form of a session is `form`, and `P` holds of all its fields and their states. -/
structure Upholds (s : Session) (form : Definition) (P : Field → FieldState → Prop) : Prop where
  ofForm : s.form = form
  fields : ∀ f ∈ form.fields, ∃ state, s.state? f.id = some state ∧ P f state

theorem Reached.actAll (reached : Reached form debounce s) (steps : List (Environment × Action)) :
    Reached form debounce (s.actAll steps) := by
  induction steps generalizing s with
  | nil => exact reached
  | cons step steps ih => exact ih (.acted step.1 step.2 reached)

theorem Reached.run (reached : Reached form debounce s) (store : DocumentStore)
    (steps : List (Calendar.Instant × Action)) : Reached form debounce (s.run store steps) := by
  rw [run_eq_actAll]
  exact reached.actAll _

/-! ## Steps -/

theorem compute?_getD (id : String) : (s.compute? env id).toOption.getD s =
    match s.form.field? id with
    | some f => s.computeField env f
    | none => s := by
  unfold compute? field?
  cases s.form.field? id <;> rfl

/-- Submitting settles the form; beyond that it only adds to the record. -/
theorem submit_snd (s : Session) (env : Environment) :
    ∃ trace, (s.submit env).2 = { s.settle env with trace := trace } := by
  unfold submit
  dsimp only
  cases (s.settle env).fault with
  | some e => exact ⟨(s.settle env).trace, rfl⟩
  | none => exact ⟨((s.settle env).fileName env).2.trace, rfl⟩

/-- A form is refused for what stands against it when it is settled; without that its values go into
the note. -/
theorem submit_cases (s : Session) (env : Environment) :
    (∃ e, (s.settle env).fault = some e ∧ (s.submit env).1 = .error e) ∨
      (s.settle env).fault = none ∧ ∃ note, (s.submit env).1 = .ok note ∧
        note.data = (s.settle env).data ∧ note.frontMatter = Form.frontMatter note.data := by
  unfold submit
  dsimp only
  cases (s.settle env).fault with
  | some e => exact Or.inl ⟨e, rfl, rfl⟩
  | none => exact Or.inr ⟨rfl, _, rfl, rfl, rfl⟩

/-- What is submitted are the values of the settled form. -/
theorem submit_ok {note : Submission} (submitted : (s.submit env).1 = .ok note) :
    note.data = (s.settle env).data ∧ note.frontMatter = Form.frontMatter note.data := by
  rcases submit_cases s env with ⟨e, -, refused⟩ | ⟨-, note', made, data, text⟩
  · rw [refused] at submitted
    cases submitted
  · rw [made] at submitted
    cases submitted
    exact ⟨data, text⟩

/-- When a form opens its fields are in their first states. -/
theorem state?_start (opened : start form debounce = .ok s) (unique : form.ids.Nodup)
    (member : f ∈ form.fields) : s.state? f.id = some (FieldState.created f) := by
  obtain ⟨-, -, states, -⟩ := start_ok opened
  have inside : (f.id, FieldState.created f) ∈ s.states := by
    rw [states]
    exact List.mem_map_of_mem member
  have keys : (s.states.map Prod.fst).Nodup := by
    rw [states, List.map_map]
    exact unique
  cases found : s.state? f.id with
  | none =>
    have absent := List.lookup_eq_none_iff.1 found _ inside
    simp at absent
  | some state =>
    obtain ⟨before, after, shape, -⟩ := List.lookup_eq_some_iff.1 found
    have other : (f.id, state) ∈ s.states := by
      rw [shape]
      exact List.mem_append_right _ List.mem_cons_self
    have same := List.inj_on_of_nodup_map keys inside other rfl
    exact congrArg some (Prod.mk.inj same).2.symm

theorem upholds_start (lasts : Lasts form P) (unique : form.ids.Nodup)
    (opened : start form debounce = .ok s) : s.Upholds form P :=
  ⟨(start_ok opened).1, fun f member =>
    ⟨FieldState.created f, state?_start opened unique member, lasts.created f member⟩⟩

/-- A step changes the states of fields, each to one of which `P` still holds. -/
theorem Upholds.of_state? {t : Session} (h : s.Upholds form P) (ofForm : t.form = s.form)
    (kept : ∀ f ∈ form.fields, ∀ state, s.state? f.id = some state → P f state →
      ∃ state', t.state? f.id = some state' ∧ P f state') : t.Upholds form P := by
  refine ⟨ofForm.trans h.ofForm, fun f member => ?_⟩
  obtain ⟨state, found, holds⟩ := h.fields f member
  exact kept f member state found holds

theorem Upholds.refresh (h : s.Upholds form P) (lasts : Lasts form P) (unique : form.ids.Nodup)
    (member : f ∈ form.fields) : (s.refresh env f change).Upholds form P := by
  refine h.of_state? rfl fun f' member' state found holds => ?_
  rw [state?_refresh, found]
  by_cases same : f'.id = f.id
  · cases List.inj_on_of_nodup_map unique member' member same
    refine ⟨_, by rw [Option.map_some, if_pos rfl], ?_⟩
    rw [computed, found]
    exact lasts.refreshed f member _ change state holds
  · exact ⟨state, by rw [Option.map_some, if_neg same], holds⟩

/-- Marking a field as computed. -/
theorem Upholds.computeField (h : (s.refresh env f .initial).Upholds form P) (lasts : Lasts form P)
    (unique : form.ids.Nodup) (member : f ∈ form.fields) :
    (s.computeField env f).Upholds form P := by
  refine h.of_state? rfl fun f' member' state found holds => ?_
  rw [state?_computeField, found, Option.map_some]
  by_cases same : f'.id = f.id
  · rw [if_pos same]
    cases List.inj_on_of_nodup_map unique member' member same
    exact ⟨_, rfl, lasts.marked _ member state holds⟩
  · rw [if_neg same]
    exact ⟨_, rfl, holds⟩

/-! ## What computing fields preserves -/

/-- A fact about sessions of a form that computing a field preserves, and that says nothing of the
schedule and of the record. -/
structure Preserved (form : Definition) (Q : Session → Prop) : Prop where
  ofForm : ∀ s : Session, Q s → s.form = form
  refreshed : ∀ (s : Session) env, ∀ f ∈ form.fields, ∀ change, Q s → Q (s.refresh env f change)
  marked : ∀ (s : Session) env, ∀ f ∈ form.fields, Q (s.refresh env f .initial) →
    Q (s.computeField env f)
  rescheduled : ∀ (s : Session) schedule, Q s → Q { s with schedule := schedule }
  recorded : ∀ (s : Session) trace, Q s → Q { s with trace := trace }

namespace Preserved

variable {Q : Session → Prop}

theorem refreshDependent (h : Preserved form Q) (holds : Q s) (origin : String)
    (changed : List String) (id : String) : Q (s.refreshDependent env origin changed id) := by
  unfold Session.refreshDependent
  rw [h.ofForm s holds]
  cases found : form.field? id with
  | none => exact holds
  | some f => exact h.refreshed s env f (Definition.mem_of_field? found).1 _ holds

theorem spread (h : Preserved form Q) (holds : Q s) (origins : List String) :
    Q (s.spread env origins) :=
  spread_preserves (fun o _ _ changed id _ holds => h.refreshDependent holds o changed id) holds

theorem react (h : Preserved form Q) (holds : Q s) (schedule : Schedule String)
    (firings : List (Firing String)) :
    Q (({ s with schedule := schedule } : Session).react env firings) :=
  react_preserves (fun _ origins _ holds => h.spread holds origins)
    (h.rescheduled s schedule holds)

theorem computeField (h : Preserved form Q) (holds : Q s) (member : f ∈ form.fields) :
    Q (s.computeField env f) :=
  h.marked s env f member (h.refreshed s env f member .initial holds)

theorem computeAll (h : Preserved form Q) (holds : Q s) (env : Environment) :
    Q (s.computeAll env) :=
  computeAll_preserves (h.ofForm s holds) env (fun _ _ member holds => h.computeField holds member)
    holds

theorem compute? (h : Preserved form Q) (holds : Q s) (env : Environment) (id : String) :
    Q ((s.compute? env id).toOption.getD s) := by
  rw [compute?_getD, h.ofForm s holds]
  cases found : form.field? id with
  | none => exact holds
  | some f => exact h.computeField holds (Definition.mem_of_field? found).1

/-- **One action.** -/
theorem act (h : Preserved form Q) (holds : Q s) (env : Environment) (a : Action) :
    Q (s.act env a) := by
  cases a with
  | edit id raw =>
    rw [act_edit, h.ofForm s holds]
    cases found : form.field? id with
    | none => exact holds
    | some f =>
      have edited := h.refreshed s env f (Definition.mem_of_field? found).1 (.user raw) holds
      show Q (s.editField env f raw)
      unfold editField
      split
      · exact h.rescheduled _ _ edited
      · exact h.spread edited _
  | sourceChanged id trigger =>
    rw [act_sourceChanged, h.ofForm s holds]
    cases found : form.field? id with
    | none => exact holds
    | some f =>
      exact h.spread (h.refreshed s env f (Definition.mem_of_field? found).1 _ holds) _
  | sleep time => exact h.react holds _ _
  | settle => exact h.react holds _ _

theorem actAll (h : Preserved form Q) (holds : Q s) (steps : List (Environment × Action)) :
    Q (s.actAll steps) := by
  induction steps generalizing s with
  | nil => exact holds
  | cons step steps ih => exact ih (h.act holds step.1 step.2)

theorem submit (h : Preserved form Q) (holds : Q s) (env : Environment) :
    Q (s.submit env).2 := by
  obtain ⟨trace, shape⟩ := submit_snd s env
  rw [shape]
  exact h.recorded _ trace (h.act holds env .settle)

end Preserved

/-! ## All sessions -/

/-- Every session that a form comes to is one of the form and a graph that represents it. -/
theorem Reached.fits (reached : s.Reached form debounce) :
    ∃ g, g.Represents form ∧ s.Fits form g := by
  induction reached with
  | @opened s opened =>
    exact ⟨s.graph, Graph.represents_of_ok (start_ok opened).2.1, fits_start opened⟩
  | @computed s env id _ ih =>
    obtain ⟨g, h, fits⟩ := ih
    refine ⟨g, h, ?_⟩
    rw [compute?_getD]
    cases s.form.field? id with
    | none => exact fits
    | some f => exact fits.computeField
  | allComputed env _ ih =>
    obtain ⟨g, h, fits⟩ := ih
    exact ⟨g, h, fits.computeAll env⟩
  | acted env a _ ih =>
    obtain ⟨g, h, fits⟩ := ih
    exact ⟨g, h, fits.act a⟩
  | drained _ ih =>
    obtain ⟨g, h, fits⟩ := ih
    exact ⟨g, h, fits.ofForm, fits.ofGraph, fits.keys, fits.timers⟩
  | @submitted s env _ ih =>
    obtain ⟨g, h, fits⟩ := ih
    obtain ⟨trace, shape⟩ := submit_snd s env
    have settled : (s.settle env).Fits form g := fits.act .settle
    rw [shape]
    exact ⟨g, h, settled.ofForm, settled.ofGraph, settled.keys, settled.timers⟩

theorem Reached.unique (reached : s.Reached form debounce) : form.ids.Nodup := by
  obtain ⟨g, h, -⟩ := reached.fits
  exact h.unique

/-- **What lasts holds of every field in every session that a form comes to.** -/
theorem Reached.upholds (reached : s.Reached form debounce) (lasts : Lasts form P) :
    s.Upholds form P := by
  have unique := reached.unique
  have preserved : Preserved form fun t => t.Upholds form P := {
    ofForm := fun _ upheld => upheld.ofForm
    refreshed := fun _ _ _ member _ upheld => upheld.refresh lasts unique member
    marked := fun _ _ _ member upheld => upheld.computeField lasts unique member
    rescheduled := fun _ _ upheld => ⟨upheld.ofForm, upheld.fields⟩
    recorded := fun _ _ upheld => ⟨upheld.ofForm, upheld.fields⟩ }
  induction reached with
  | opened opened => exact upholds_start lasts unique opened
  | computed env id _ ih => exact preserved.compute? ih env id
  | allComputed env _ ih => exact preserved.computeAll ih env
  | acted env a _ ih => exact preserved.act ih env a
  | drained _ ih => exact ⟨ih.ofForm, ih.fields⟩
  | submitted env _ ih => exact preserved.submit ih env

end Session

end Formulary.Form
