import Formulary.Form.Session
import Formulary.Proofs.Renewal

/-!
# The states of a session while fields are computed

Computing a field puts its new state in place of the old one and adds what it says; the other
fields keep their states (`state?_refresh`, `updates_refresh`). What comes out is `computed`, which
depends on the session only through the field's own state and the values its properties refer to
(`computed_congr`).
-/

namespace Formulary.Form.Session

/-! ## A form with a field that two others read -/

def city : Field :=
  { id := "city", label := "City", kind := .text, content := some (.fixed "Lisbon") }

def note : Field :=
  { id := "note", label := "Note", kind := .textarea, content := some (.expression "{{$$.city}}") }

def tag : Field :=
  { id := "tag", label := "Tag", kind := .text, placeholder := some "{{$$.city}}" }

def trip : Definition := { title := "Trip", fields := [city, note, tag] }

theorem city_mem : city ∈ trip.fields := List.mem_cons_self

theorem note_mem : note ∈ trip.fields := List.mem_cons_of_mem _ List.mem_cons_self

/-! ## Replacing a state -/

theorem lookup_putState (id i : String) (state : FieldState) (states : List (String × FieldState)) :
    (putState id state states).lookup i =
      (states.lookup i).map fun old => if i = id then state else old := by
  induction states with
  | nil => rfl
  | cons entry states ih =>
    obtain ⟨j, old⟩ := entry
    rw [putState, List.map_cons, ← putState]
    by_cases here : i = j
    · subst here
      by_cases same : i = id
      · simp [same]
      · simp [same]
    · have elsewhere : (i == j) = false := beq_eq_false_iff_ne.2 here
      by_cases same : j = id
      · simp only [same, if_true, List.lookup_cons]
        rw [← same, elsewhere]
        simpa [same] using ih
      · simp only [same, if_false, List.lookup_cons, elsewhere]
        exact ih

theorem map_fst_putState (id : String) (state : FieldState)
    (states : List (String × FieldState)) :
    (putState id state states).map Prod.fst = states.map Prod.fst := by
  rw [putState, List.map_map]
  refine List.map_congr_left fun entry _ => ?_
  obtain ⟨i, old⟩ := entry
  by_cases same : i = id <;> simp [same]

theorem putState_comm {a b : String} (differ : a ≠ b) (x y : FieldState)
    (states : List (String × FieldState)) :
    putState a x (putState b y states) = putState b y (putState a x states) := by
  unfold putState
  rw [List.map_map, List.map_map]
  refine List.map_congr_left fun entry _ => ?_
  obtain ⟨i, old⟩ := entry
  by_cases first : i = a
  · have other : i ≠ b := fun same => differ (first.symm.trans same)
    simp [first, differ]
  · by_cases second : i = b
    · simp [second, Ne.symm differ]
    · simp [first, second]

/-! ## Opening -/

theorem eq_ok_get {α ε : Type} {r : Except ε α} (opens : r.toOption.isSome = true) :
    r = .ok (r.toOption.get opens) := by
  cases r with
  | error e => cases opens
  | ok a => rfl

theorem exists_ok_of_isSome {α ε : Type} {r : Except ε α} (opens : r.toOption.isSome = true) :
    ∃ a, r = .ok a :=
  ⟨_, eq_ok_get opens⟩

/-- A form that opens has a graph; its fields are in their first states and nothing waits. -/
theorem start_ok {form : Definition} {debounce : Nat} {s : Session}
    (h : start form debounce = .ok s) :
    s.form = form ∧ Graph.ofDefinition form = .ok s.graph ∧
      s.states = form.fields.map (fun f => (f.id, FieldState.created f)) ∧
      s.schedule = { delay := debounce } := by
  unfold start startOn at h
  cases built : Graph.ofDefinition form with
  | error e =>
    rw [built] at h
    cases h
  | ok g =>
    rw [built] at h
    cases h
    exact ⟨rfl, rfl, rfl, rfl⟩

/-- A form that opens has told of its fields, in their order. -/
theorem updates_start {form : Definition} {debounce : Nat} {s : Session}
    (h : start form debounce = .ok s) : s.updates = form.fields.flatMap opening := by
  unfold start startOn at h
  cases built : Graph.ofDefinition form with
  | error e =>
    rw [built] at h
    cases h
  | ok g =>
    rw [built] at h
    cases h
    rfl

/-! ## Computing one field -/

/-- What a computation in the session reads besides the field's own state. -/
def surroundings (s : Session) (env : Environment) : Surroundings := ⟨env, s.graph, s.value?⟩

/-- What computing a field of the session comes to. -/
def computed (s : Session) (env : Environment) (f : Field) (change : Change) : Outcome Unit :=
  outcome ((s.surroundings env).refresh f change) ((s.state? f.id).getD (FieldState.created f))

variable {s s' : Session} {env : Environment} {f : Field} {change : Change}

theorem refresh_eq (s : Session) (env : Environment) (f : Field) (change : Change) :
    ∃ more, s.refresh env f change =
      { s with
        states := putState f.id (s.computed env f change).own s.states
        updates := s.updates ++ (s.computed env f change).said
        trace := s.trace.append more } := by
  have about : About f.id ((s.surroundings env).refresh f change) := Surroundings.about_refresh
  obtain ⟨more, ran⟩ := about.run ⟨(s.state? f.id).getD (FieldState.created f), [], s.trace⟩
  refine ⟨more, ?_⟩
  unfold refresh
  dsimp only
  rw [surroundings] at ran
  rw [ran]
  rfl

theorem states_refresh :
    (s.refresh env f change).states = putState f.id (s.computed env f change).own s.states := by
  obtain ⟨more, shape⟩ := refresh_eq s env f change
  rw [shape]

theorem updates_refresh :
    (s.refresh env f change).updates = s.updates ++ (s.computed env f change).said := by
  obtain ⟨more, shape⟩ := refresh_eq s env f change
  rw [shape]

@[simp]
theorem form_refresh : (s.refresh env f change).form = s.form := rfl

@[simp]
theorem graph_refresh : (s.refresh env f change).graph = s.graph := rfl

theorem state?_refresh (i : String) :
    (s.refresh env f change).state? i =
      (s.state? i).map fun old => if i = f.id then (s.computed env f change).own else old := by
  rw [state?, states_refresh, lookup_putState]
  rfl

theorem state?_refresh_of_ne {i : String} (differs : i ≠ f.id) :
    (s.refresh env f change).state? i = s.state? i := by
  rw [state?_refresh]
  simp only [if_neg differs, Option.map_id']

theorem state?_refresh_self {state : FieldState} (found : s.state? f.id = some state) :
    (s.refresh env f change).state? f.id =
      some (outcome ((s.surroundings env).refresh f change) state).own := by
  rw [state?_refresh, computed, found, Option.map_some, if_pos rfl, Option.getD_some]

theorem value?_refresh_of_ne {i : String} (differs : i ≠ f.id) :
    (s.refresh env f change).value? i = s.value? i := by
  rw [value?, state?_refresh_of_ne differs]
  rfl

/-- All that is said while a field is computed is about that field. -/
theorem said_computed : ∀ u ∈ (s.computed env f change).said, u.id = f.id :=
  Surroundings.about_refresh.said _

/-- **What computing a field comes to depends only on its own state and on the values that its
properties refer to.** -/
theorem computed_congr (graph : s.graph = s'.graph) (own : s.state? f.id = s'.state? f.id)
    (agree : Surroundings.AgreeAround s.graph f.id s.value? s'.value?) :
    s.computed env f change = s'.computed env f change := by
  unfold computed surroundings
  rw [Surroundings.refresh_congr agree, graph, own]

end Formulary.Form.Session
