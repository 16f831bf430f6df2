import Formulary.Proofs.Acceptance
import Formulary.Proofs.Levels
import Formulary.Proofs.States

/-!
# The order within a level

The fields of a level may be computed in any order. `Alike` is what the order leaves unchanged:
the states, and what the display is told of each field. Two computations of fields that do not read
each other can be swapped (`alike_swap`), hence so can the fields of a level (`alike_level`), hence
whole waves end alike (`propagate_reordered`).
-/

namespace Formulary.Form.Session

/-- What the display is told of a field. -/
def told (s : Session) (id : String) : List Update := s.updates.filter (·.id = id)

/-- The sessions are in the same states, and each field's display was told the same. -/
structure Alike (s s' : Session) : Prop where
  form : s.form = s'.form
  graph : s.graph = s'.graph
  states : s.states = s'.states
  told : ∀ id, s.told id = s'.told id

theorem Alike.refl (s : Session) : Alike s s := ⟨rfl, rfl, rfl, fun _ => rfl⟩

variable {s s' s'' : Session} {env : Environment} {f f' : Field} {change change' : Change}

theorem Alike.trans (h : Alike s s') (h' : Alike s' s'') : Alike s s'' :=
  ⟨h.form.trans h'.form, h.graph.trans h'.graph, h.states.trans h'.states,
    fun id => (h.told id).trans (h'.told id)⟩

/-! ## One field -/

/-- Computing a field tells the display of this field only. -/
theorem told_refresh (id : String) :
    (s.refresh env f change).told id =
      s.told id ++ if id = f.id then (s.computed env f change).said else [] := by
  unfold told
  rw [updates_refresh, List.filter_append]
  congr 1
  split
  · rename_i same
    refine List.filter_eq_self.2 fun u member => ?_
    rw [said_computed u member, same]
    exact decide_eq_true rfl
  · rename_i differs
    refine List.filter_eq_nil_iff.2 fun u member => ?_
    rw [said_computed u member]
    simpa using Ne.symm differs

/-- Computing a field in sessions that are alike leaves them alike. -/
theorem Alike.refresh (h : Alike s s') :
    Alike (s.refresh env f change) (s'.refresh env f change) := by
  have state (i : String) : s.state? i = s'.state? i := by rw [state?, h.states, ← state?]
  have same : s.computed env f change = s'.computed env f change :=
    computed_congr h.graph (state f.id) fun _ i _ _ => by rw [value?, state i, ← value?]
  refine ⟨h.form, h.graph, ?_, fun id => ?_⟩
  · rw [states_refresh, states_refresh, same, h.states]
  · rw [told_refresh, told_refresh, same, h.told id]

/-- A computation of a field comes to the same after one of another field that it does not read. -/
theorem computed_refresh (differ : f'.id ≠ f.id)
    (unread : ∀ name, f.id ∉ s.graph.context f'.id name) :
    (s.refresh env f change).computed env f' change' = s.computed env f' change' := by
  refine computed_congr rfl (state?_refresh_of_ne differ)
    fun name i referred _ => value?_refresh_of_ne ?_
  rintro rfl
  exact unread name referred

/-- **Computations of two fields that do not read each other can be swapped.** -/
theorem alike_swap (differ : f.id ≠ f'.id) (unread : ∀ name, f.id ∉ s.graph.context f'.id name)
    (unread' : ∀ name, f'.id ∉ s.graph.context f.id name) :
    Alike ((s.refresh env f change).refresh env f' change')
      ((s.refresh env f' change').refresh env f change) := by
  have second : (s.refresh env f change).computed env f' change' = s.computed env f' change' :=
    computed_refresh (Ne.symm differ) unread
  have second' : (s.refresh env f' change').computed env f change = s.computed env f change :=
    computed_refresh differ unread'
  refine ⟨rfl, rfl, ?_, fun id => ?_⟩
  · rw [states_refresh, states_refresh, states_refresh, states_refresh, second, second',
      putState_comm (Ne.symm differ)]
  · rw [told_refresh, told_refresh, told_refresh, told_refresh, second, second']
    by_cases first : id = f.id
    · have other : id ≠ f'.id := fun same => differ (first.symm.trans same)
      simp only [if_pos first, if_neg other, List.append_nil]
    · simp only [if_neg first, List.append_nil]

/-! ## One level -/

variable {g : Graph} {form : Definition} {origin : String} {changed changed' : List String}

@[simp]
theorem graph_refreshDependent (id : String) :
    (s.refreshDependent env origin changed id).graph = s.graph := by
  unfold refreshDependent
  cases s.form.field? id <;> rfl

/-- A field is computed alike on lists of the same changed fields. -/
theorem refreshDependent_congr (same : ∀ id, changed.contains id = changed'.contains id) :
    refreshDependent env origin changed = refreshDependent env origin changed' := by
  funext s id
  unfold refreshDependent
  cases s.form.field? id with
  | none => rfl
  | some f =>
    simp only [same, Session.refresh]
    rw [Surroundings.refresh_others_congr _ same]

theorem Alike.refreshDependent (h : Alike s s') (id : String) :
    Alike (s.refreshDependent env origin changed id)
      (s'.refreshDependent env origin changed id) := by
  unfold Session.refreshDependent
  rw [h.form, h.graph]
  cases s'.form.field? id with
  | none => exact h
  | some f => exact h.refresh

theorem id_of_field? {form : Definition} {id : String} (found : form.field? id = some f) :
    f.id = id := by
  simpa using List.find?_some found

/-- Fields without an edge between them are computed in any order. -/
theorem alike_swap_dependents (h : g.Represents form) (graph : s.graph = g) {a b : String}
    (apart : ¬ form.Edge a b) (apart' : ¬ form.Edge b a) :
    Alike ((s.refreshDependent env origin changed a).refreshDependent env origin changed b)
      ((s.refreshDependent env origin changed b).refreshDependent env origin changed a) := by
  by_cases differ : a = b
  · rw [differ]
    exact Alike.refl _
  · have swapped (f f' : Field) (isA : f.id = a) (isB : f'.id = b) (change change' : Change) :
        Alike ((s.refresh env f change).refresh env f' change')
          ((s.refresh env f' change').refresh env f change) := by
      subst isA isB graph
      exact alike_swap differ (fun name referred => apart (h.edge_of_mem_context referred differ))
        fun name referred => apart' (h.edge_of_mem_context referred (Ne.symm differ))
    unfold refreshDependent
    cases first : s.form.field? a with
    | none =>
      cases second : s.form.field? b with
      | none => simp only [first]; exact Alike.refl _
      | some f' => simp only [first, form_refresh]; exact Alike.refl _
    | some f =>
      cases second : s.form.field? b with
      | none => simp only [first, second, form_refresh]; exact Alike.refl _
      | some f' =>
        simp only [first, second, form_refresh, graph_refresh]
        exact swapped f f' (id_of_field? first) (id_of_field? second) _ _

theorem graph_foldl_refreshDependent (level : List String) :
    (level.foldl (refreshDependent env origin changed) s).graph = s.graph := by
  induction level generalizing s with
  | nil => rfl
  | cons id level ih => rw [List.foldl_cons, ih, graph_refreshDependent]

theorem Alike.level (h : Alike s s') (level : List String) :
    Alike (level.foldl (Session.refreshDependent env origin changed) s)
      (level.foldl (Session.refreshDependent env origin changed) s') := by
  induction level generalizing s s' with
  | nil => exact h
  | cons id level ih => exact ih (h.refreshDependent id)

/-- **A level may be computed in any order.** -/
theorem alike_level (h : g.Represents form) {level level' : List String}
    (reordered : level.Perm level') (apart : ∀ x ∈ level, ∀ y ∈ level, ¬ form.Edge x y)
    {s : Session} (graph : s.graph = g) :
    Alike (level.foldl (refreshDependent env origin changed) s)
      (level'.foldl (refreshDependent env origin changed) s) := by
  induction reordered generalizing s with
  | nil => exact Alike.refl s
  | cons id _ ih =>
    refine ih (fun x inside y inside' => ?_) ?_
    · exact apart x (List.mem_cons_of_mem _ inside) y (List.mem_cons_of_mem _ inside')
    · rw [graph_refreshDependent, graph]
  | swap a b level =>
    have inside : a ∈ b :: a :: level := List.mem_cons_of_mem _ List.mem_cons_self
    have inside' : b ∈ b :: a :: level := List.mem_cons_self
    exact (alike_swap_dependents h graph (apart b inside' a inside)
      (apart a inside b inside')).level level
  | trans first _ ih ih' =>
    have later := first.symm.subset
    exact (ih apart graph).trans
      (ih' (fun x inside y inside' => apart x (later inside) y (later inside')) graph)

/-! ## Waves -/

/-- Spreads a change of a field through given levels. -/
def propagateThrough (env : Environment) (s : Session) (origin : String)
    (levels : List (List String)) : Session :=
  s.runRounds env [⟨origin, [origin], levels⟩] levels.length

/-- Propagation takes the levels of the graph. -/
theorem propagate_eq : s.propagate env origin =
    s.propagateThrough env origin (s.graph.wave origin) := by
  unfold propagate spread propagateThrough wave
  simp

theorem alike_rounds (h : g.Represents form) {levels levels' : List (List String)}
    (reordered : List.Forall₂ List.Perm levels levels')
    (apart : ∀ level ∈ levels', ∀ x ∈ level, ∀ y ∈ level, ¬ form.Edge x y)
    (same : ∀ id, changed.contains id = changed'.contains id)
    {s s' : Session} (graph : s.graph = g) (graph' : s'.graph = g) (alike : Alike s s') :
    Alike (s.runRounds env [⟨origin, changed, levels⟩] levels.length)
      (s'.runRounds env [⟨origin, changed', levels'⟩] levels'.length) := by
  induction reordered generalizing changed changed' s s' with
  | nil => exact alike
  | @cons level level' levels levels' first _ ih =>
    have apart' : ∀ x ∈ level, ∀ y ∈ level, ¬ form.Edge x y := fun x inside y inside' =>
      apart level' List.mem_cons_self x (first.subset inside) y (first.subset inside')
    refine ih (fun l member => apart l (List.mem_cons_of_mem _ member)) (fun id => ?_) ?_ ?_ ?_
    · rw [List.contains_append, List.contains_append, same, first.contains_eq]
    · exact (graph_foldl_refreshDependent level).trans graph
    · exact (graph_foldl_refreshDependent level').trans graph'
    · show Alike (level.foldl (refreshDependent env origin changed) s)
        (level'.foldl (refreshDependent env origin changed') s')
      rw [refreshDependent_congr same]
      exact (alike_level h first apart' graph).trans (alike.level level')

/-- **Waves do not depend on the order within their levels.** Whatever the order in which the fields
of each level are computed, all states end up the same, and the display is told the same of each
field. -/
theorem propagate_reordered {s : Session} {levels : List (List String)} (env : Environment)
    (origin : String) (built : Graph.ofDefinition s.form = .ok s.graph)
    (reordered : List.Forall₂ List.Perm levels (s.graph.wave origin)) :
    (s.propagateThrough env origin levels).states = (s.propagate env origin).states ∧
      ∀ id, (s.propagateThrough env origin levels).told id = (s.propagate env origin).told id := by
  have h := Graph.represents_of_ok built
  have spreads := h.spreads_wave origin
  have apart := spreads.layered.apart (List.nodup_cons.1 spreads.once).2
  rw [propagate_eq]
  have alike : Alike (s.propagateThrough env origin levels)
      (s.propagateThrough env origin (s.graph.wave origin)) :=
    alike_rounds h reordered apart (fun _ => rfl) rfl rfl (Alike.refl s)
  exact ⟨alike.states, alike.told⟩

theorem propagate_reordered_trip : ∃ s, start trip defaultDebounce = .ok s ∧
    s.graph.wave "city" = [["note", "tag"]] ∧
    ∀ env : Environment, (s.propagateThrough env "city" [["tag", "note"]]).states =
        (s.propagate env "city").states ∧
      ∀ id, (s.propagateThrough env "city" [["tag", "note"]]).told id =
        (s.propagate env "city").told id := by
  have wave : (start trip defaultDebounce).toOption.map (fun s => s.graph.wave "city") =
      some [["note", "tag"]] := by
    decide +kernel
  cases started : start trip defaultDebounce with
  | error e =>
    rw [started] at wave
    cases wave
  | ok s =>
    rw [started] at wave
    have wave : s.graph.wave "city" = [["note", "tag"]] := Option.some.inj wave
    obtain ⟨form, built, -, -⟩ := start_ok started
    rw [← form] at built
    refine ⟨s, rfl, wave, fun env => propagate_reordered env "city" built ?_⟩
    rw [wave]
    exact .cons (List.Perm.swap "note" "tag" []) .nil

end Formulary.Form.Session
