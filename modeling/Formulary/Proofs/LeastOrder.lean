import Formulary.Proofs.Acceptance

/-!
# The order of computation is the least one

Many orders put each field of a form after all its sources (`Definition.Sorts`). Compare two of them
where they first differ: the one whose field stands earlier in the form comes first. The graph takes
the first ready field again and again, and since any such order has to go on with a ready field, no
other one comes before the order of the graph.

* `takeReady_least`: what is taken, against any other order of the pending nodes.
* `order_least`: the order of a graph is the least of all orders of its form.
-/

namespace Formulary.Form

/-- An order has all fields of the form, each after all its sources. -/
structure Definition.Sorts (form : Definition) (order : List String) : Prop where
  complete : order.Perm form.ids
  after : ∀ s d, form.Edge s d → order.idxOf s < order.idxOf d

/-- The places in the form of the fields of an order. -/
def Definition.places (form : Definition) (order : List String) : List Nat :=
  order.map form.ids.idxOf

namespace Graph

/-! ## Taking the first ready node -/

/-- An order of pending nodes begins with a ready one. -/
theorem isReady_of_ordered {pending : List Node} {n : Node} {others : List String}
    (member : n ∈ pending) (complete : (n.id :: others).Perm (pending.map Node.id))
    (ordered : (n.id :: others).Pairwise fun x y => ¬ Edge pending y x) :
    isReady pending n = true := by
  refine isReady_iff.2 fun p waiting => ?_
  have source : p.id ∈ pending.map Node.id := List.mem_map_of_mem waiting
  cases depends : n.dependsOn p.id with
  | false => rfl
  | true =>
    have edge : Edge pending p.id n.id := ⟨source, n, member, rfl, depends⟩
    rcases List.mem_cons.1 (complete.symm.subset source) with same | later
    · exact absurd same edge.ne
    · exact absurd edge ((List.pairwise_cons.1 ordered).1 p.id later)

/-- The first of the ready nodes stands before every other one. -/
theorem rank_lt_of_find? {rank : String → Nat} {pending : List Node} {n m : Node}
    (rising : (pending.map Node.id).Pairwise fun x y => rank x < rank y)
    (first : pending.find? (isReady pending) = some n) (member : m ∈ pending)
    (ready : isReady pending m = true) (other : m ≠ n) : rank n.id < rank m.id := by
  obtain ⟨-, before, after, shape, waiting⟩ := List.find?_eq_some_iff_append.1 first
  have later : m ∈ after := by
    rw [shape] at member
    rcases List.mem_append.1 member with early | late
    · have waits := waiting m early
      rw [ready] at waits
      cases waits
    · exact (List.mem_cons.1 late).resolve_left other
  rw [shape, List.map_append, List.map_cons] at rising
  have tail := (List.pairwise_append.1 rising).2.1
  exact (List.pairwise_cons.1 tail).1 m.id (List.mem_map_of_mem later)

/-- **The order in which ready nodes are taken is the least one**, by the ranks of the nodes. The
induction follows the taking; another order either goes on with the same node, or it goes on with a
node that is ready as well and so stands later. -/
theorem takeReady_least (rank : String → Nat) (pending : List Node)
    (rising : (pending.map Node.id).Pairwise fun x y => rank x < rank y) {other : List String}
    (complete : other.Perm (pending.map Node.id))
    (ordered : other.Pairwise fun x y => ¬ Edge pending y x) :
    other = (takeReady pending).1 ∨
      List.Lex (· < ·) ((takeReady pending).1.map rank) (other.map rank) := by
  fun_induction takeReady pending generalizing other with
  | case1 pending stuck =>
    left
    cases other with
    | nil => rfl
    | cons x others =>
      obtain ⟨n, member, rfl⟩ := List.mem_map.1 (complete.subset List.mem_cons_self)
      exact absurd (isReady_of_ordered member complete ordered)
        (List.find?_eq_none.1 stuck n member)
  | case2 pending n first order stuck eq ih =>
    have member := List.mem_of_find?_eq_some first
    have split := (List.perm_cons_erase member).map Node.id
    cases other with
    | nil => exact absurd (complete.symm.subset (List.mem_map_of_mem member)) List.not_mem_nil
    | cons x others =>
      obtain ⟨m, member', rfl⟩ := List.mem_map.1 (complete.subset List.mem_cons_self)
      by_cases same : m = n
      · subst same
        have left : others.Perm ((pending.erase m).map Node.id) :=
          List.Perm.cons_inv (complete.trans split)
        have fewer : others.Pairwise fun x y => ¬ Edge (pending.erase m) y x :=
          (List.pairwise_cons.1 ordered).2.imp fun none edge =>
            none (edge.mono List.erase_subset)
        have sublist : ((pending.erase m).map Node.id).Sublist (pending.map Node.id) :=
          List.erase_sublist.map Node.id
        rw [eq] at ih
        rcases ih (rising.sublist sublist) left fewer with rfl | less
        · exact Or.inl rfl
        · exact Or.inr (List.Lex.cons less)
      · have ready := isReady_of_ordered member' complete ordered
        exact Or.inr (List.Lex.rel (rank_lt_of_find? rising first member' ready same))

/-! ## Orders of a form -/

variable {form : Definition} {g : Graph}

/-- A graph that is built has taken all its nodes. -/
theorem takeReady_of_ok (built : ofDefinition form = .ok g) :
    takeReady g.nodes = (g.order, []) := by
  unfold ofDefinition at built
  split at built
  · cases built
  · dsimp only at built
    split at built
    · rename_i taken
      cases built
      exact taken
    · cases built

theorem Represents.sorts (h : g.Represents form) : form.Sorts g.order :=
  ⟨h.complete, fun _ _ edge => h.idxOf_lt edge⟩

/-- The sources that the graph tells of are those to come first. -/
theorem Represents.sorts_iff (h : g.Represents form) {order : List String} :
    form.Sorts order ↔ order.Perm form.ids ∧
      ∀ d ∈ form.ids, ∀ s ∈ g.sources d, order.idxOf s < order.idxOf d := by
  constructor
  · intro sorts
    exact ⟨sorts.complete, fun d _ s source => sorts.after s d (h.mem_sources.1 source)⟩
  · intro facts
    obtain ⟨complete, after⟩ := facts
    exact ⟨complete, fun s d edge => after d edge.target_mem s (h.mem_sources.2 edge)⟩

/-- In such an order no field comes before one of its sources. -/
theorem pairwise_of_sorts (unique : form.ids.Nodup) {order : List String}
    (sorts : form.Sorts order) : order.Pairwise fun x y => ¬ form.Edge y x := by
  have once : order.Nodup := sorts.complete.nodup_iff.2 unique
  refine List.pairwise_iff_getElem.2 fun i j inside inside' before edge => ?_
  have after := sorts.after _ _ edge
  rw [once.idxOf_getElem, once.idxOf_getElem] at after
  omega

/-- The fields of a form stand in the order of their places. -/
theorem pairwise_idxOf_lt {ids : List String} (unique : ids.Nodup) :
    ids.Pairwise fun x y => ids.idxOf x < ids.idxOf y := by
  refine List.pairwise_iff_getElem.2 fun i j inside inside' before => ?_
  rw [unique.idxOf_getElem, unique.idxOf_getElem]
  exact before

/-- **Of all orders of a form, its graph has the least.** It has all fields, each after all its
sources, and of any other such order it is true that where the two first differ, the graph has a
field that stands earlier in the form. -/
theorem order_least (built : ofDefinition form = .ok g) :
    form.Sorts g.order ∧ ∀ other, form.Sorts other → other ≠ g.order →
      List.Lex (· < ·) (form.places g.order) (form.places other) := by
  have h := represents_of_ok built
  refine ⟨h.sorts, fun other sorts differs => ?_⟩
  have names : g.nodes.map Node.id = form.ids := h.ids_eq
  have rising := pairwise_idxOf_lt h.unique
  have complete := sorts.complete
  rw [← names] at complete
  have ordered : other.Pairwise fun x y => ¬ Edge g.nodes y x := by
    refine (pairwise_of_sorts h.unique sorts).imp fun none edge => none ?_
    rw [h.nodes] at edge
    exact edge_ofField.1 edge
  have least := takeReady_least form.ids.idxOf g.nodes (by rwa [names]) complete ordered
  rw [takeReady_of_ok built] at least
  exact least.resolve_left differs

/-- The first field needs all but one of the others, and two of these are in the wrong order. -/
def invoice : Definition :=
  { title := "Invoice"
    fields := [
      { id := "total", label := "Total", kind := .number,
        content := some (.expression "{{$$.price * $$.tax}}") },
      { id := "note", label := "Note", kind := .text },
      { id := "tax", label := "Tax", kind := .number,
        content := some (.expression "{{$$.price / 5}}") },
      { id := "price", label := "Price", kind := .number }] }

theorem order_least_invoice : ∃ g, ofDefinition invoice = .ok g ∧
    g.order = ["note", "price", "tax", "total"] ∧ invoice.Sorts g.order ∧
    invoice.Sorts ["price", "note", "tax", "total"] ∧
    List.Lex (· < ·) (invoice.places g.order)
      (invoice.places ["price", "note", "tax", "total"]) := by
  have seen : (ofDefinition invoice).toOption.map (fun g => (g.order, invoice.ids.map g.sources)) =
      some (["note", "price", "tax", "total"], [["tax", "price"], [], ["price"], []]) := by
    decide +kernel
  cases built : ofDefinition invoice with
  | error e =>
    rw [built] at seen
    cases seen
  | ok g =>
    rw [built] at seen
    obtain ⟨order, sources⟩ := Prod.mk.inj (Option.some.inj seen)
    obtain ⟨total, note, tax, price⟩ : g.sources "total" = ["tax", "price"] ∧
        g.sources "note" = [] ∧ g.sources "tax" = ["price"] ∧ g.sources "price" = [] := by
      simpa [invoice, Definition.ids] using sources
    have sorts : invoice.Sorts ["price", "note", "tax", "total"] := by
      refine (represents_of_ok built).sorts_iff.2 ⟨by decide, ?_⟩
      simp [invoice, Definition.ids, total, note, tax, price]
    obtain ⟨own, least⟩ := order_least built
    refine ⟨g, rfl, order, own, sorts, least _ sorts ?_⟩
    rw [order]
    decide

end Graph

end Formulary.Form
