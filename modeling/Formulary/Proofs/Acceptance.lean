import Formulary.Form.Session
import Formulary.Proofs.Edge

/-!
# Which forms have a graph

A form has a graph exactly when no id comes up twice and its edges have no cycle.

* `ofDefinition_cases` says what each outcome of building the graph means.
* `graph_iff_wellFormed` turns this around: it tells from the form which outcome there is,
  what is reported, and that a form without a graph is not shown.
-/

namespace Formulary.Form

open Relation (TransGen)

/-! ## Repeated ids -/

/-- `id` is the first of the ids that was there before. -/
def FirstRepeat (ids : List String) (id : String) : Prop :=
  ∃ before after, ids = before ++ id :: after ∧ id ∈ before ∧ before.Nodup

theorem FirstRepeat.not_nodup {ids : List String} {id : String} (h : FirstRepeat ids id) :
    ¬ ids.Nodup := by
  rcases h with ⟨before, after, rfl, repeated, -⟩
  intro once
  exact (List.nodup_append.1 once).2.2 id repeated id List.mem_cons_self rfl

/-- A longer way to a repeated id would already hold the repetition of a shorter one. -/
theorem FirstRepeat.eq_of_le {before before' after after' : List String} {id id' : String}
    (same : before ++ id :: after = before' ++ id' :: after') (repeated : id ∈ before)
    (once : before'.Nodup) (le : before.length ≤ before'.length) : id = id' := by
  rcases List.append_eq_append_iff.1 same with ⟨mid, rfl, rest⟩ | ⟨mid, rfl, rest⟩
  · cases mid with
    | nil => exact (List.cons.inj rest).1
    | cons x mid =>
      obtain rfl : id = x := (List.cons.inj rest).1
      exact absurd rfl ((List.nodup_append.1 once).2.2 id repeated id List.mem_cons_self)
  · cases mid with
    | nil => exact (List.cons.inj rest).1.symm
    | cons x mid =>
      rw [List.length_append, List.length_cons] at le
      omega

theorem FirstRepeat.eq {ids : List String} {id id' : String} (h : FirstRepeat ids id)
    (h' : FirstRepeat ids id') : id = id' := by
  rcases h with ⟨before, after, rfl, repeated, once⟩
  rcases h' with ⟨before', after', same, repeated', once'⟩
  rcases Nat.le_total before.length before'.length with le | le
  · exact eq_of_le same repeated once' le
  · exact (eq_of_le same.symm repeated' once le).symm

namespace Graph

theorem firstRepeated?_none {seen ids : List String} (h : firstRepeated? seen ids = none) :
    ids.Nodup ∧ ∀ id ∈ ids, id ∉ seen := by
  induction ids generalizing seen with
  | nil => exact ⟨.nil, fun id member => absurd member List.not_mem_nil⟩
  | cons x ids ih =>
    rw [firstRepeated?] at h
    split at h
    · cases h
    · rename_i new
      rcases ih h with ⟨once, fresh⟩
      refine ⟨List.nodup_cons.2 ⟨fun again => fresh x again List.mem_cons_self, once⟩, ?_⟩
      intro id member
      rcases List.mem_cons.1 member with rfl | member
      · simpa using new
      · exact fun old => fresh id member (List.mem_cons_of_mem x old)

/-- Behind the ids already seen, the search stops at the first that is one of them or repeats one
of those passed on the way. -/
theorem firstRepeated?_some {seen ids : List String} {id : String}
    (h : firstRepeated? seen ids = some id) :
    ∃ before after, ids = before ++ id :: after ∧ (id ∈ seen ∨ id ∈ before) ∧ before.Nodup ∧
      ∀ x ∈ before, x ∉ seen := by
  induction ids generalizing seen with
  | nil => cases h
  | cons x ids ih =>
    rw [firstRepeated?] at h
    split at h
    · rename_i old
      cases h
      exact ⟨[], ids, rfl, Or.inl (by simpa using old), .nil, fun x member =>
        absurd member List.not_mem_nil⟩
    · rename_i new
      rcases ih h with ⟨before, after, rfl, repeated, once, fresh⟩
      have unseen : x ∉ before := fun again => fresh x again List.mem_cons_self
      refine ⟨x :: before, after, rfl, ?_, List.nodup_cons.2 ⟨unseen, once⟩, ?_⟩
      · rcases repeated with old | again
        · rcases List.mem_cons.1 old with rfl | old
          · exact Or.inr List.mem_cons_self
          · exact Or.inl old
        · exact Or.inr (List.mem_cons_of_mem x again)
      · intro y member
        rcases List.mem_cons.1 member with rfl | member
        · simpa using new
        · exact fun old => fresh y member (List.mem_cons_of_mem x old)

/-! ## Building the graph -/

variable {form : Definition}

theorem distinct_ofField (unique : form.ids.Nodup) :
    ((form.fields.map (Node.ofField form.ids)).map Node.id).Nodup := by
  rw [map_id_ofField]
  exact unique

/-- When every node is taken, the nodes and the order they were taken in are the form's graph. -/
theorem represents_of_takeReady (unique : form.ids.Nodup) {order : List String}
    (h : takeReady (form.fields.map (Node.ofField form.ids)) = (order, [])) :
    Represents ⟨form.fields.map (Node.ofField form.ids), order⟩ form := by
  have all := takeReady_perm (form.fields.map (Node.ofField form.ids))
  have forward := takeReady_ordered (distinct_ofField unique)
  rw [h] at all forward
  refine ⟨unique, rfl, ?_, forward.imp fun none edge => none (edge_ofField.2 edge)⟩
  rw [List.map_nil, List.append_nil, map_id_ofField] at all
  exact all

/-- When nodes are left over, they report a cycle of the form. -/
theorem closedPath_of_takeReady (unique : form.ids.Nodup) {order : List String}
    {stuck : List Node}
    (h : takeReady (form.fields.map (Node.ofField form.ids)) = (order, stuck))
    (nonempty : stuck ≠ []) : ClosedPath form.Edge (cycle stuck) := by
  have waits : ∀ n ∈ stuck, ∃ p ∈ stuck, n.dependsOn p.id = true := by
    intro n left
    have waits := takeReady_waits (n := n) (form.fields.map (Node.ofField form.ids))
    rw [h] at waits
    exact waits left
  have once := takeReady_nodup (distinct_ofField unique)
  have sub := takeReady_subset (form.fields.map (Node.ofField form.ids))
  rw [h] at once sub
  refine (cycle_closed once.of_append_right waits nonempty).mono fun s d edge => ?_
  exact edge_ofField.1 (edge.mono sub)

/-- What building the graph of a form comes to: it reports the first id that comes up again, or a
cycle, or it gives the graph of the form. -/
theorem ofDefinition_cases (form : Definition) :
    (∃ id, ofDefinition form = .error (.duplicateIdentifier id) ∧ FirstRepeat form.ids id) ∨
      (∃ path, ofDefinition form = .error (.cyclicDependency path) ∧ form.ids.Nodup ∧
        ClosedPath form.Edge path) ∨
      ∃ g, ofDefinition form = .ok g ∧ g.Represents form := by
  unfold ofDefinition
  cases repeated : firstRepeated? [] form.ids with
  | some id =>
    rcases firstRepeated?_some repeated with ⟨before, after, shape, again, once, -⟩
    exact Or.inl ⟨id, rfl, before, after, shape, by simpa using again, once⟩
  | none =>
    have unique := (firstRepeated?_none repeated).1
    rcases taken : takeReady (form.fields.map (Node.ofField form.ids)) with ⟨order, stuck⟩
    cases stuck with
    | nil =>
      refine Or.inr (Or.inr ⟨_, ?_, represents_of_takeReady unique taken⟩)
      simp only [taken]
    | cons n stuck =>
      have closed := closedPath_of_takeReady unique taken (List.cons_ne_nil n stuck)
      refine Or.inr (Or.inl ⟨_, ?_, unique, closed⟩)
      simp only [taken]

/-- An id that is reported is the first that comes up again. -/
theorem firstRepeat_of_error {id : String}
    (h : ofDefinition form = .error (.duplicateIdentifier id)) : FirstRepeat form.ids id := by
  rcases ofDefinition_cases form with ⟨id', outcome, first⟩ | ⟨path, outcome, -⟩ | ⟨g, outcome, -⟩
  · rw [h] at outcome
    cases outcome
    exact first
  · rw [h] at outcome
    cases outcome
  · rw [h] at outcome
    cases outcome

/-- A path that is reported is a cycle of a form whose ids are distinct. -/
theorem closedPath_of_error {path : List String}
    (h : ofDefinition form = .error (.cyclicDependency path)) :
    form.ids.Nodup ∧ ClosedPath form.Edge path := by
  rcases ofDefinition_cases form with ⟨id, outcome, -⟩ | ⟨path', outcome, cycle⟩ | ⟨g, outcome, -⟩
  · rw [h] at outcome
    cases outcome
  · rw [h] at outcome
    cases outcome
    exact cycle
  · rw [h] at outcome
    cases outcome

/-- A graph that is built is the graph of its form. -/
theorem represents_of_ok {g : Graph} (h : ofDefinition form = .ok g) : g.Represents form := by
  rcases ofDefinition_cases form with ⟨id, outcome, -⟩ | ⟨path, outcome, -⟩ | ⟨g', outcome, sound⟩
  · rw [h] at outcome
    cases outcome
  · rw [h] at outcome
    cases outcome
  · rw [h] at outcome
    cases outcome
    exact sound

end Graph

/-! ## Opening -/

namespace Session

/-- A form without a graph is not opened, and nothing of it is shown. -/
theorem startOn_error {form : Definition} {e : Error} (debounce : Nat) (shown : List Update)
    (h : Graph.ofDefinition form = .error e) :
    (startOn form debounce).run.run shown = (.error e, shown) := by
  simp only [startOn, h]
  rfl

end Session

/-! ## The outcome, told from the form -/

/-- **A form has a graph exactly when it is well formed.** A repeated id is reported, and it is the
first one; else a cycle of edges is, as a path along the edges that is closed and has no other
repetition; else there is a graph, and its sources and dependents are the two directions of the
edges, in the order of the form. A form without a graph shows nothing on the display that it is
opened on. -/
theorem graph_iff_wellFormed (form : Definition) :
    (∀ id, Graph.ofDefinition form = .error (.duplicateIdentifier id) ↔
      FirstRepeat form.ids id) ∧
    ((∃ id, Graph.ofDefinition form = .error (.duplicateIdentifier id)) ↔ ¬ form.ids.Nodup) ∧
    (form.ids.Nodup →
      ((∃ path, Graph.ofDefinition form = .error (.cyclicDependency path)) ↔
        ∃ x, TransGen form.Edge x x) ∧
      ((∃ g, Graph.ofDefinition form = .ok g) ↔ ¬ ∃ x, TransGen form.Edge x x)) ∧
    (∀ path, Graph.ofDefinition form = .error (.cyclicDependency path) →
      ClosedPath form.Edge path) ∧
    (∀ g, Graph.ofDefinition form = .ok g → ∀ s d,
      (s ∈ g.sources d ↔ form.Edge s d) ∧ (d ∈ g.dependents s ↔ form.Edge s d) ∧
      (g.sources d).Sublist form.ids ∧ (g.dependents s).Sublist form.ids) ∧
    ∀ e debounce shown, Graph.ofDefinition form = .error e →
      (Session.startOn form debounce).run.run shown = (.error e, shown) := by
  refine ⟨fun id => ⟨Graph.firstRepeat_of_error, fun first => ?_⟩,
    ⟨fun refused => ?_, fun again => ?_⟩, fun unique => ?_, fun path refused => ?_,
    fun g built s d => ?_, fun e debounce shown refused => ?_⟩
  · rcases Graph.ofDefinition_cases form with
      ⟨id', outcome, first'⟩ | ⟨path, -, unique, -⟩ | ⟨g, -, sound⟩
    · rw [outcome, first.eq first']
    · exact absurd unique first.not_nodup
    · exact absurd sound.unique first.not_nodup
  · obtain ⟨id, refused⟩ := refused
    exact (Graph.firstRepeat_of_error refused).not_nodup
  · rcases Graph.ofDefinition_cases form with
      ⟨id, outcome, -⟩ | ⟨path, -, unique, -⟩ | ⟨g, -, sound⟩
    · exact ⟨id, outcome⟩
    · exact absurd unique again
    · exact absurd sound.unique again
  · rcases Graph.ofDefinition_cases form with
      ⟨id, -, first⟩ | ⟨path, outcome, -, closed⟩ | ⟨g, outcome, sound⟩
    · exact absurd unique first.not_nodup
    · have cycle := closed.transGen
      refine ⟨iff_of_true ⟨path, outcome⟩ cycle,
        iff_of_false (fun built => ?_) (not_not_intro cycle)⟩
      obtain ⟨g, built⟩ := built
      obtain ⟨x, round⟩ := cycle
      exact (Graph.represents_of_ok built).acyclic x round
    · have acyclic : ¬ ∃ x, TransGen form.Edge x x := fun ⟨x, round⟩ => sound.acyclic x round
      refine ⟨iff_of_false (fun refused => ?_) acyclic, iff_of_true ⟨g, outcome⟩ acyclic⟩
      obtain ⟨path, refused⟩ := refused
      exact acyclic (Graph.closedPath_of_error refused).2.transGen
  · exact (Graph.closedPath_of_error refused).2
  · have sound := Graph.represents_of_ok built
    exact ⟨sound.mem_sources, sound.mem_dependents, sound.sources_sublist d,
      sound.dependents_sublist s⟩
  · exact Session.startOn_error debounce shown refused

end Formulary.Form
