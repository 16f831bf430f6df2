import Formulary.Proofs.Edge

/-!
# The levels of a wave

A wave measures in one pass, along the order of the graph, how far each field is from the origin at
most. Since the order puts sources first, the pass satisfies the equation of longest distances
(`distance?_eq`), from which everything here follows.

* `Spreads` is what a wave needs of its levels: no field comes up twice, and what depends on the
  origin or on a field of a level stands in a later level.
* `spreads_wave`: the levels of a wave are such.
-/

namespace Formulary.Form

/-- What depends on a field of a level stands in a later level. -/
def Layered (edge : String → String → Prop) : List (List String) → Prop
  | [] => True
  | level :: levels =>
    (∀ x ∈ level, ∀ y, edge x y → y ∈ levels.flatten) ∧ Layered edge levels

/-- What depends on a field of the levels is in the levels. -/
theorem Layered.closed {edge : String → String → Prop} {levels : List (List String)}
    (layered : Layered edge levels) {x y : String} (inside : x ∈ levels.flatten)
    (leads : edge x y) : y ∈ levels.flatten := by
  induction levels with
  | nil => exact absurd inside List.not_mem_nil
  | cons level levels ih =>
    rcases layered with ⟨forward, layered⟩
    rw [List.flatten_cons] at inside ⊢
    refine List.mem_append_right _ ?_
    rcases List.mem_append.1 inside with here | later
    · exact forward x here y leads
    · exact ih layered later

/-- What depends on a field of a level, or on one behind it, comes behind the level. -/
theorem Layered.behind {edge : String → String → Prop} {before after : List (List String)}
    {level : List String} (layered : Layered edge (before ++ level :: after)) {x y : String}
    (inside : x ∈ level ∨ x ∈ after.flatten) (leads : edge x y) : y ∈ after.flatten := by
  induction before with
  | nil => exact inside.elim (fun here => layered.1 x here y leads) (layered.2.closed · leads)
  | cons first before ih => exact ih layered.2

/-- No field of a level depends on another of the same level. -/
theorem Layered.apart {edge : String → String → Prop} {levels : List (List String)}
    (layered : Layered edge levels) (once : levels.flatten.Nodup) :
    ∀ level ∈ levels, ∀ x ∈ level, ∀ y ∈ level, ¬ edge x y := by
  induction levels with
  | nil => exact fun _ member => absurd member List.not_mem_nil
  | cons first levels ih =>
    rcases layered with ⟨forward, layered⟩
    rw [List.flatten_cons, List.nodup_append] at once
    rcases once with ⟨-, once, disjoint⟩
    intro level member x inside y inside' edge
    rcases List.mem_cons.1 member with rfl | member
    · exact disjoint y inside' y (forward x inside y edge) rfl
    · exact ih layered once level member x inside y inside' edge

/-- Levels through which a change of `origin` can spread. -/
structure Spreads (edge : String → String → Prop) (origin : String)
    (levels : List (List String)) : Prop where
  first : ∀ y, edge origin y → y ∈ levels.flatten
  layered : Layered edge levels
  once : (origin :: levels.flatten).Nodup

namespace Graph

open Relation (ReflTransGen TransGen)

/-- The distance of a field from `origin` that a wave measures. -/
def distance? (g : Graph) (origin id : String) : Option Nat :=
  (g.depths origin [] g.order).lookup id

theorem oneAbove?_eq_some_iff {depths : List Nat} {d : Nat} :
    oneAbove? depths = some d ↔ ∃ m ∈ depths, (∀ n ∈ depths, n ≤ m) ∧ d = m + 1 := by
  unfold oneAbove?
  rw [Option.map_eq_some_iff]
  constructor
  · intro facts
    obtain ⟨m, largest, rfl⟩ := facts
    rcases List.max?_eq_some_iff.1 largest with ⟨member, bound⟩
    exact ⟨m, member, bound, rfl⟩
  · intro facts
    obtain ⟨m, member, bound, rfl⟩ := facts
    exact ⟨m, List.max?_eq_some_iff.2 ⟨member, bound⟩, rfl⟩

/-! ## One pass along the order -/

variable {g : Graph} {form : Definition} {origin : String}

/-- One step measures one id, from what is measured so far. -/
theorem depths_cons (measured : List (String × Nat)) (id : String) (order : List String) :
    g.depths origin measured (id :: order) =
      g.depths origin
        (((if id = origin then some 0
          else oneAbove? ((g.sources id).filterMap fun s => measured.lookup s)).map
            (id, ·)).toList ++ measured) order := by
  rw [depths]
  split <;> rename_i h <;> rw [h] <;> rfl

theorem depths_append (measured : List (String × Nat)) (before after : List String) :
    g.depths origin measured (before ++ after) =
      g.depths origin (g.depths origin measured before) after := by
  induction before generalizing measured with
  | nil => rfl
  | cons id before ih => rw [List.cons_append, depths_cons, depths_cons, ih]

/-- The pass leaves alone what it does not come to. -/
theorem lookup_depths {measured : List (String × Nat)} {order : List String} {id : String}
    (absent : id ∉ order) : (g.depths origin measured order).lookup id = measured.lookup id := by
  induction order generalizing measured with
  | nil => rfl
  | cons x order ih =>
    rw [List.mem_cons, not_or] at absent
    rcases absent with ⟨differs, absent⟩
    rw [depths_cons, ih absent]
    generalize (if x = origin then some 0 else _ : Option Nat) = depth
    cases depth with
    | none => rfl
    | some d =>
      have other : (id == x) = false := beq_eq_false_iff_ne.2 differs
      simp [List.lookup_cons, other]

namespace Represents

theorem distance?_eq_none (h : g.Represents form) {id : String} (absent : id ∉ form.ids) :
    g.distance? origin id = none :=
  lookup_depths fun member => absent (h.complete.subset member)

/-- **The equation of longest distances.** A field other than the origin is one step further away
than the furthest of its sources. -/
theorem distance?_eq (h : g.Represents form) {id : String} (member : id ∈ form.ids) :
    g.distance? origin id = if id = origin then some 0
      else oneAbove? ((g.sources id).filterMap (g.distance? origin)) := by
  have split := h.complete.symm.subset member
  rcases List.eq_append_cons_of_mem split with ⟨before, after, shape, unseen⟩
  have once := h.order_nodup
  have ordered := h.ordered
  rw [shape] at once ordered
  have after_nodup := (List.nodup_append.1 once).2.1
  have behind : id ∉ after := (List.nodup_cons.1 after_nodup).1
  -- The sources stand before `id`, so the rest of the pass leaves their distances alone.
  have settled : ∀ s ∈ g.sources id,
      (g.depths origin [] before).lookup s = g.distance? origin s := by
    intro s source
    have edge := h.mem_sources.1 source
    have later : s ∉ id :: after := by
      intro again
      rcases List.mem_cons.1 again with rfl | again
      · exact edge.2.1 rfl
      · have forward := (List.pairwise_append.1 ordered).2.1
        exact (List.pairwise_cons.1 forward).1 s again edge
    rw [distance?, shape, depths_append, lookup_depths later]
  have front : (g.depths origin [] before).lookup id = none := lookup_depths unseen
  have values : ((g.sources id).filterMap fun s => (g.depths origin [] before).lookup s) =
      (g.sources id).filterMap (g.distance? origin) := List.filterMap_congr settled
  rw [distance?, shape, depths_append, depths_cons, lookup_depths behind, values]
  generalize (if id = origin then some 0 else _ : Option Nat) = depth
  cases depth with
  | none => exact front
  | some d => simp

theorem distance?_origin (h : g.Represents form) (member : origin ∈ form.ids) :
    g.distance? origin origin = some 0 := by
  rw [h.distance?_eq member, if_pos rfl]

theorem mem_of_distance? (h : g.Represents form) {id : String} {d : Nat}
    (measured : g.distance? origin id = some d) : id ∈ form.ids := by
  by_contra absent
  rw [h.distance?_eq_none absent] at measured
  cases measured

/-- A field that is not the origin is measured from a source one step nearer. -/
theorem exists_source (h : g.Represents form) {id : String} {d : Nat}
    (measured : g.distance? origin id = some d) (differs : id ≠ origin) :
    ∃ s k, form.Edge s id ∧ g.distance? origin s = some k ∧ d = k + 1 := by
  rw [h.distance?_eq (h.mem_of_distance? measured), if_neg differs,
    oneAbove?_eq_some_iff] at measured
  rcases measured with ⟨k, member, -, rfl⟩
  rcases List.mem_filterMap.1 member with ⟨s, source, nearer⟩
  exact ⟨s, k, h.mem_sources.1 source, nearer, rfl⟩

/-- What is measured is reached from the origin. -/
theorem reaches (h : g.Represents form) {id : String} {d : Nat}
    (measured : g.distance? origin id = some d) : ReflTransGen form.Edge origin id := by
  induction d generalizing id with
  | zero =>
    by_cases same : id = origin
    · rw [same]
    · rcases h.exists_source measured same with ⟨s, k, -, -, absurd⟩
      cases absurd
  | succ d ih =>
    by_cases same : id = origin
    · rw [same]
    · rcases h.exists_source measured same with ⟨s, k, edge, nearer, step⟩
      cases step
      exact (ih nearer).tail edge

/-- Along an edge the distance grows; no edge leads back to the origin. -/
theorem distance?_lt (h : g.Represents form) {s d : String} {i : Nat} (edge : form.Edge s d)
    (measured : g.distance? origin s = some i) : ∃ j, g.distance? origin d = some j ∧ i < j := by
  have differs : d ≠ origin := by
    rintro rfl
    exact h.acyclic d (TransGen.tail' (h.reaches measured) edge)
  have known : i ∈ (g.sources d).filterMap (g.distance? origin) :=
    List.mem_filterMap.2 ⟨s, h.mem_sources.2 edge, measured⟩
  rw [h.distance?_eq edge.target_mem, if_neg differs]
  cases furthest : oneAbove? ((g.sources d).filterMap (g.distance? origin)) with
  | none =>
    rw [oneAbove?, Option.map_eq_none_iff, List.max?_eq_none_iff] at furthest
    rw [furthest] at known
    exact absurd known List.not_mem_nil
  | some j =>
    rcases oneAbove?_eq_some_iff.1 furthest with ⟨m, -, bound, rfl⟩
    exact ⟨m + 1, rfl, Nat.lt_succ_of_le (bound i known)⟩

end Represents

/-! ## Levels -/

/-- The fields at a distance, in the order of the form. -/
def ring (g : Graph) (origin : String) (k : Nat) : List String :=
  g.ids.filter fun id => g.distance? origin id == some (k + 1)

/-- The largest distance that is measured. -/
def deepest (g : Graph) (origin : String) : Nat :=
  (((g.depths origin [] g.order).map Prod.snd).max?).getD 0

theorem wave_eq : g.wave origin = (List.range (g.deepest origin)).map (g.ring origin) := rfl

theorem le_deepest {id : String} {d : Nat} (measured : g.distance? origin id = some d) :
    d ≤ g.deepest origin := by
  rcases List.lookup_eq_some_iff.1 measured with ⟨before, after, shape, -⟩
  have member : d ∈ (g.depths origin [] g.order).map Prod.snd := by
    rw [shape]
    simp
  unfold deepest
  cases largest : ((g.depths origin [] g.order).map Prod.snd).max? with
  | none =>
    rw [List.max?_eq_none_iff] at largest
    rw [largest] at member
    exact absurd member List.not_mem_nil
  | some m => exact (List.max?_eq_some_iff.1 largest).2 d member

namespace Represents

theorem mem_ring (h : g.Represents form) {k : Nat} {id : String} :
    id ∈ g.ring origin k ↔ g.distance? origin id = some (k + 1) := by
  rw [ring, List.mem_filter, h.ids_eq, beq_iff_eq]
  exact ⟨And.right, fun measured => ⟨h.mem_of_distance? measured, measured⟩⟩

/-- The wave has the fields at positive distances. -/
theorem mem_flatten_wave (h : g.Represents form) {id : String} :
    id ∈ (g.wave origin).flatten ↔ ∃ k, g.distance? origin id = some (k + 1) := by
  rw [wave_eq, List.mem_flatten]
  constructor
  · intro facts
    obtain ⟨level, member, inside⟩ := facts
    rcases List.mem_map.1 member with ⟨k, -, rfl⟩
    exact ⟨k, h.mem_ring.1 inside⟩
  · intro facts
    obtain ⟨k, measured⟩ := facts
    refine ⟨g.ring origin k, List.mem_map_of_mem (List.mem_range.2 ?_), h.mem_ring.2 measured⟩
    exact Nat.lt_of_succ_le (le_deepest measured)

/-- The levels from one on to the deepest are layered: edges lead to larger distances. -/
theorem layered_rings (h : g.Represents form) (origin : String) :
    ∀ n start, start + n = g.deepest origin →
      Layered form.Edge ((List.range' start n).map (g.ring origin)) := by
  intro n
  induction n with
  | zero => exact fun _ _ => trivial
  | succ n ih =>
    intro start last
    rw [List.range'_succ, List.map_cons]
    refine ⟨fun x inside y edge => ?_, ih (start + 1) (by omega)⟩
    rcases h.distance?_lt edge (h.mem_ring.1 inside) with ⟨j, measured, further⟩
    have bound := le_deepest measured
    obtain ⟨k, rfl⟩ : ∃ k, j = k + 1 := ⟨j - 1, by omega⟩
    refine List.mem_flatten.2 ⟨g.ring origin k, List.mem_map_of_mem ?_, h.mem_ring.2 measured⟩
    rw [List.mem_range'_1]
    omega

theorem nodup_flatten_wave (h : g.Represents form) (origin : String) :
    (g.wave origin).flatten.Nodup := by
  rw [wave_eq, List.nodup_flatten]
  constructor
  · intro level member
    rcases List.mem_map.1 member with ⟨k, -, rfl⟩
    refine List.Nodup.filter _ ?_
    rw [h.ids_eq]
    exact h.unique
  · rw [List.pairwise_map]
    refine List.pairwise_lt_range.imp fun {i j} apart x inside inside' => ?_
    have same := (h.mem_ring.1 inside).symm.trans (h.mem_ring.1 inside')
    have : i + 1 = j + 1 := Option.some.inj same
    omega

/-- **The levels of a wave are fit for a change to spread through them.** -/
theorem spreads_wave (h : g.Represents form) (origin : String) :
    Spreads form.Edge origin (g.wave origin) where
  first := by
    intro y edge
    rcases h.distance?_lt edge (h.distance?_origin edge.1) with ⟨j, measured, further⟩
    exact h.mem_flatten_wave.2 ⟨j - 1, by rw [measured]; congr; omega⟩
  layered := by
    have rings := h.layered_rings origin (g.deepest origin) 0 (Nat.zero_add _)
    rwa [← List.range_eq_range'] at rings
  once := by
    refine List.nodup_cons.2 ⟨fun inside => ?_, h.nodup_flatten_wave origin⟩
    rcases h.mem_flatten_wave.1 inside with ⟨k, measured⟩
    rw [h.distance?_origin (h.mem_of_distance? measured)] at measured
    cases measured

/-- The wave has the fields that depend on the origin. -/
theorem mem_flatten_wave_iff (h : g.Represents form) {id : String} :
    id ∈ (g.wave origin).flatten ↔ TransGen form.Edge origin id := by
  constructor
  · intro inside
    rcases h.mem_flatten_wave.1 inside with ⟨k, measured⟩
    rcases Relation.reflTransGen_iff_eq_or_transGen.1 (h.reaches measured) with rfl | path
    · have once := (List.nodup_cons.1 (h.spreads_wave id).once).1
      exact absurd inside once
    · exact path
  · intro path
    have spreads := h.spreads_wave origin
    induction path with
    | single edge => exact spreads.first _ edge
    | tail _ edge ih => exact spreads.layered.closed ih edge

end Represents

end Graph

end Formulary.Form
