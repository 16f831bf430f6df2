import Formulary.Proofs.Mention
import Formulary.Proofs.Order

/-!
# The edges of a form and its graph

`Definition.Edge` is read off the texts of a form: the properties of `d` mention the field `s`.
`Graph.Represents` says what a graph of the form has to be: the nodes are the fields, and the order
puts each field after its sources. From it alone follow the views of the graph (`mem_sources`,
`mem_dependents`) and that the edges have no cycle (`Represents.acyclic`).
-/

namespace Formulary.Form

/-- A text among the field's properties mentions the field `id`. -/
def Field.Mentions (f : Field) (id : String) : Prop :=
  ∃ p ∈ f.sources, Template.Mentions p.2.toList id.toList

/-- An edge of a form: the field `d` mentions another field `s` of the form. -/
def Definition.Edge (form : Definition) (s d : String) : Prop :=
  s ∈ form.ids ∧ s ≠ d ∧ ∃ f ∈ form.fields, f.id = d ∧ f.Mentions s

theorem Definition.Edge.target_mem {form : Definition} {s d : String} (h : form.Edge s d) :
    d ∈ form.ids := by
  rcases h with ⟨-, -, f, member, rfl, -⟩
  exact List.mem_map_of_mem member

/-- What a property refers to is what its text mentions of the form. -/
theorem mem_context_ofField {ids : List String} {f : Field} {id : String} :
    (∃ c ∈ (Node.ofField ids f).contexts, id ∈ c.2) ↔ id ∈ ids ∧ f.Mentions id := by
  constructor
  · intro facts
    obtain ⟨c, member, read⟩ := facts
    rcases List.mem_map.1 member with ⟨p, source, rfl⟩
    rcases List.mem_filter.1 read with ⟨referenced, known⟩
    exact ⟨by simpa using known, p, source, Template.mem_referencedFields.1 referenced⟩
  · intro facts
    obtain ⟨known, p, source, mentioned⟩ := facts
    refine ⟨_, List.mem_map_of_mem source, List.mem_filter.2 ⟨?_, by simpa using known⟩⟩
    exact Template.mem_referencedFields.2 mentioned

theorem dependsOn_ofField {ids : List String} {f : Field} {s : String} :
    (Node.ofField ids f).dependsOn s = true ↔ s ∈ ids ∧ f.Mentions s ∧ f.id ≠ s := by
  rw [← and_assoc, ← mem_context_ofField]
  simp [Node.dependsOn, Node.reads, Node.ofField]

namespace Graph

theorem map_id_ofField (ids : List String) (fields : List Field) :
    (fields.map (Node.ofField ids)).map Node.id = fields.map Field.id := by
  rw [List.map_map]
  rfl

/-- The edges among the nodes of a form are the edges of the form. -/
theorem edge_ofField {form : Definition} {s d : String} :
    Edge (form.fields.map (Node.ofField form.ids)) s d ↔ form.Edge s d := by
  unfold Edge Definition.Edge
  rw [map_id_ofField]
  constructor
  · intro facts
    obtain ⟨source, n, member, rfl, depends⟩ := facts
    rcases List.mem_map.1 member with ⟨f, inside, rfl⟩
    rcases dependsOn_ofField.1 depends with ⟨-, mentions, differs⟩
    exact ⟨source, Ne.symm differs, f, inside, rfl, mentions⟩
  · intro facts
    obtain ⟨source, differs, f, inside, rfl, mentions⟩ := facts
    exact ⟨source, _, List.mem_map_of_mem inside, rfl,
      dependsOn_ofField.2 ⟨source, mentions, Ne.symm differs⟩⟩

/-- The graph of a form: its nodes are the form's fields, and its order has them all, each after
its sources. -/
structure Represents (g : Graph) (form : Definition) : Prop where
  unique : form.ids.Nodup
  nodes : g.nodes = form.fields.map (Node.ofField form.ids)
  complete : g.order.Perm form.ids
  ordered : g.order.Pairwise fun x y => ¬ form.Edge y x

variable {g : Graph} {form : Definition}

namespace Represents

theorem ids_eq (h : g.Represents form) : g.ids = form.ids := by
  rw [ids, h.nodes, map_id_ofField]
  rfl

theorem order_nodup (h : g.Represents form) : g.order.Nodup :=
  h.complete.nodup_iff.2 h.unique

theorem node?_of_mem (h : g.Represents form) {f : Field} (member : f ∈ form.fields) :
    g.node? f.id = some (Node.ofField form.ids f) := by
  have unique : (g.nodes.map Node.id).Nodup := by
    rw [h.nodes, map_id_ofField]
    exact h.unique
  exact find?_of_unique unique
    (by rw [h.nodes]; exact List.mem_map_of_mem (f := Node.ofField form.ids) member)

theorem node?_of_not_mem (h : g.Represents form) {id : String} (absent : id ∉ form.ids) :
    g.node? id = none := by
  refine List.find?_eq_none.2 fun n member => ?_
  have inside : n.id ∈ g.ids := List.mem_map_of_mem member
  rw [h.ids_eq] at inside
  simpa using fun (same : n.id = id) => absent (same ▸ inside)

/-! ## Views -/

/-- The sources of a field are where its edges come from. -/
theorem mem_sources (h : g.Represents form) {s d : String} :
    s ∈ g.sources d ↔ form.Edge s d := by
  by_cases inside : d ∈ form.ids
  · rcases List.mem_map.1 inside with ⟨f, member, rfl⟩
    have names : g.nodes.map Node.id = form.ids := h.ids_eq
    rw [sources, h.node?_of_mem member, Option.map_some, Option.getD_some, sourcesIn, names,
      List.mem_filter, dependsOn_ofField]
    constructor
    · intro facts
      obtain ⟨source, -, mentions, differs⟩ := facts
      exact ⟨source, Ne.symm differs, f, member, rfl, mentions⟩
    · intro facts
      obtain ⟨source, differs, f', member', same, mentions⟩ := facts
      rw [List.inj_on_of_nodup_map h.unique member' member same] at mentions
      exact ⟨source, source, mentions, Ne.symm differs⟩
  · rw [sources, h.node?_of_not_mem inside]
    exact iff_of_false List.not_mem_nil fun edge => inside edge.target_mem

/-- The dependents of a field are where its edges lead. -/
theorem mem_dependents (h : g.Represents form) {s d : String} :
    d ∈ g.dependents s ↔ form.Edge s d := by
  rw [dependents, h.nodes, List.mem_map, ← edge_ofField, Edge, map_id_ofField]
  constructor
  · intro facts
    obtain ⟨n, member, rfl⟩ := facts
    rcases List.mem_filter.1 member with ⟨member, depends⟩
    rcases List.mem_map.1 member with ⟨f, inside, rfl⟩
    exact ⟨(dependsOn_ofField.1 depends).1, _, member, rfl, depends⟩
  · intro facts
    obtain ⟨-, n, member, rfl, depends⟩ := facts
    exact ⟨n, List.mem_filter.2 ⟨member, depends⟩, rfl⟩

/-- What a property refers to besides its own field is a source of the field. -/
theorem edge_of_mem_context (h : g.Represents form) {d x : String} {name : PropertyName}
    (referred : x ∈ g.context d name) (differs : x ≠ d) : form.Edge x d := by
  by_cases inside : d ∈ form.ids
  · rcases List.mem_map.1 inside with ⟨f, member, rfl⟩
    rw [context, h.node?_of_mem member, Option.bind_some] at referred
    cases found : (Node.ofField form.ids f).contexts.lookup name with
    | none =>
      rw [found] at referred
      cases referred
    | some ids =>
      rw [found] at referred
      rcases List.lookup_eq_some_iff.1 found with ⟨before, after, shape, -⟩
      have context : ∃ c ∈ (Node.ofField form.ids f).contexts, x ∈ c.2 :=
        ⟨(name, ids), by rw [shape]; simp, referred⟩
      rcases mem_context_ofField.1 context with ⟨known, mentions⟩
      exact ⟨known, differs, f, member, rfl, mentions⟩
  · rw [context, h.node?_of_not_mem inside] at referred
    cases referred

theorem sources_sublist (h : g.Represents form) (d : String) :
    (g.sources d).Sublist form.ids := by
  unfold sources
  cases g.node? d with
  | none => exact List.nil_sublist _
  | some n =>
    rw [← h.ids_eq]
    exact List.filter_sublist

theorem dependents_sublist (h : g.Represents form) (s : String) :
    (g.dependents s).Sublist form.ids := by
  rw [← h.ids_eq]
  exact List.filter_sublist.map Node.id

/-! ## Rank -/

/-- An edge leads forward in the order. -/
theorem idxOf_lt (h : g.Represents form) {s d : String} (edge : form.Edge s d) :
    g.order.idxOf s < g.order.idxOf d := by
  have source := List.idxOf_lt_length_of_mem (h.complete.symm.subset edge.1)
  have target := List.idxOf_lt_length_of_mem (h.complete.symm.subset edge.target_mem)
  by_contra behind
  rcases Nat.lt_or_eq_of_le (Nat.not_lt.1 behind) with before | same
  · have none := List.pairwise_iff_getElem.1 h.ordered _ _ target source before
    rw [List.getElem_idxOf, List.getElem_idxOf] at none
    exact none edge
  · refine edge.2.1 ?_
    rw [← List.getElem_idxOf source, ← List.getElem_idxOf target]
    simp only [same]

theorem idxOf_lt_of_transGen (h : g.Represents form) {s d : String}
    (path : Relation.TransGen form.Edge s d) : g.order.idxOf s < g.order.idxOf d := by
  induction path with
  | single edge => exact h.idxOf_lt edge
  | tail _ edge ih => exact Nat.lt_trans ih (h.idxOf_lt edge)

/-- A form with a graph has no cycle. -/
theorem acyclic (h : g.Represents form) (x : String) : ¬ Relation.TransGen form.Edge x x :=
  fun path => Nat.lt_irrefl _ (h.idxOf_lt_of_transGen path)

end Represents

end Graph

end Formulary.Form
