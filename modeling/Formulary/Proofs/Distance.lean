import Formulary.Proofs.Acceptance
import Formulary.Proofs.Levels
import Mathlib.Order.Bounds.Basic

/-!
# Distances in a wave

`Walk edge origin n id` is a path of `n` edges from the origin to `id`, said without any
measuring.

* `distance?_eq_some_iff`: the distance that a wave measures is the greatest number of edges on a
  path.
* `wave_greatest`: so the levels of a wave hold what depends on the origin, each field once and at
  its greatest distance, with no gap between the levels.
-/

namespace Formulary.Form

open Relation (ReflTransGen TransGen)

/-- A path of `n` edges from `origin`. -/
inductive Walk (edge : String → String → Prop) (origin : String) : Nat → String → Prop
  | start : Walk edge origin 0 origin
  | step {n : Nat} {x y : String} : Walk edge origin n x → edge x y → Walk edge origin (n + 1) y

namespace Graph

variable {g : Graph} {form : Definition} {origin : String}

namespace Represents

/-! ## Distances -/

/-- A distance that is measured is the length of a path. -/
theorem walk_of_distance? (h : g.Represents form) {id : String} {d : Nat}
    (measured : g.distance? origin id = some d) : Walk form.Edge origin d id := by
  induction d generalizing id with
  | zero =>
    by_cases same : id = origin
    · rw [same]
      exact .start
    · rcases h.exists_source measured same with ⟨s, k, -, -, absurd⟩
      cases absurd
  | succ d ih =>
    by_cases same : id = origin
    · subst same
      rw [h.distance?_origin (h.mem_of_distance? measured)] at measured
      cases measured
    · rcases h.exists_source measured same with ⟨s, k, leads, nearer, step⟩
      cases step
      exact (ih nearer).step leads

/-- No path is longer than the distance of the field where it ends. -/
theorem distance?_of_walk (h : g.Represents form) (member : origin ∈ form.ids) {id : String}
    {n : Nat} (walk : Walk form.Edge origin n id) :
    ∃ d, g.distance? origin id = some d ∧ n ≤ d := by
  induction walk with
  | start => exact ⟨0, h.distance?_origin member, Nat.le_refl 0⟩
  | step _ leads ih =>
    obtain ⟨i, measured, bound⟩ := ih
    obtain ⟨j, measured', further⟩ := h.distance?_lt leads measured
    exact ⟨j, measured', by omega⟩

/-- **The distance that is measured is the greatest length of a path.** -/
theorem distance?_eq_some_iff (h : g.Represents form) (member : origin ∈ form.ids) {id : String}
    {d : Nat} :
    g.distance? origin id = some d ↔ IsGreatest {n | Walk form.Edge origin n id} d := by
  constructor
  · intro measured
    refine ⟨h.walk_of_distance? measured, fun n walk => ?_⟩
    obtain ⟨d', measured', bound⟩ := h.distance?_of_walk member walk
    rw [measured] at measured'
    cases measured'
    exact bound
  · intro greatest
    obtain ⟨d', measured, bound⟩ := h.distance?_of_walk member greatest.1
    have le := greatest.2 (h.walk_of_distance? measured)
    rw [measured, Nat.le_antisymm le bound]

/-- Nothing is measured from an origin that is no field. -/
theorem distance?_of_not_mem (h : g.Represents form) (absent : origin ∉ form.ids) (id : String) :
    g.distance? origin id = none := by
  cases measured : g.distance? origin id with
  | none => rfl
  | some d =>
    refine absurd ?_ absent
    rcases ReflTransGen.cases_head (h.reaches measured) with rfl | ⟨y, leads, -⟩
    · exact h.mem_of_distance? measured
    · exact leads.1

/-! ## Levels -/

/-- Where there is a field at some distance, there is one at every smaller distance. -/
theorem exists_distance? (h : g.Represents form) {id : String} {d : Nat}
    (measured : g.distance? origin id = some d) {k : Nat} (le : k ≤ d) :
    ∃ x, g.distance? origin x = some k := by
  induction le using Nat.decreasingInduction with
  | self => exact ⟨id, measured⟩
  | of_succ k _ ih =>
    obtain ⟨x, further⟩ := ih
    have differs : x ≠ origin := by
      rintro rfl
      rw [h.distance?_origin (h.mem_of_distance? further)] at further
      cases further
    obtain ⟨s, j, -, nearer, step⟩ := h.exists_source further differs
    cases step
    exact ⟨s, nearer⟩

/-- Each field is measured at most once. -/
theorem keys_depths_sublist (measured : List (String × Nat)) (order : List String) :
    ((g.depths origin measured order).map Prod.fst).Sublist
      (order.reverse ++ measured.map Prod.fst) := by
  induction order generalizing measured with
  | nil => exact .refl _
  | cons id order ih =>
    rw [depths_cons, List.reverse_cons, List.append_assoc]
    refine (ih _).trans (List.Sublist.append (.refl _) ?_)
    generalize (if id = origin then some 0 else _ : Option Nat) = depth
    cases depth with
    | none => exact List.sublist_cons_self id _
    | some d => exact .refl _

theorem distance?_of_mem (h : g.Represents form) {id : String} {d : Nat}
    (measured : (id, d) ∈ g.depths origin [] g.order) : g.distance? origin id = some d := by
  have once : ((g.depths origin [] g.order).map Prod.fst).Nodup := by
    refine List.Nodup.sublist (keys_depths_sublist [] g.order) ?_
    rw [List.map_nil, List.append_nil]
    exact List.nodup_reverse.2 h.order_nodup
  rcases List.append_of_mem measured with ⟨before, after, shape⟩
  rw [shape, List.map_append, List.map_cons, List.nodup_append] at once
  refine List.lookup_eq_some_iff.2 ⟨before, after, shape, fun p member => ?_⟩
  have differs := once.2.2 p.1 (List.mem_map_of_mem member) id List.mem_cons_self
  exact bne_iff_ne.2 differs.symm

/-- The deepest level is at a distance that some field has. -/
theorem exists_deepest (h : g.Represents form) (some_depth : g.deepest origin ≠ 0) :
    ∃ id, g.distance? origin id = some (g.deepest origin) := by
  unfold deepest at some_depth ⊢
  cases largest : ((g.depths origin [] g.order).map Prod.snd).max? with
  | none =>
    rw [largest] at some_depth
    exact absurd rfl some_depth
  | some d =>
    rcases List.mem_map.1 (List.max?_eq_some_iff.1 largest).1 with ⟨⟨id, d'⟩, member, rfl⟩
    exact ⟨id, h.distance?_of_mem member⟩

theorem deepest_of_not_mem (h : g.Represents form) (absent : origin ∉ form.ids) :
    g.deepest origin = 0 := by
  by_contra positive
  obtain ⟨id, measured⟩ := h.exists_deepest positive
  rw [h.distance?_of_not_mem absent] at measured
  cases measured

/-- A level of a wave is the ring at its distance, and lies within the deepest one. -/
theorem getElem?_wave {level : List String} {k : Nat} :
    (g.wave origin)[k]? = some level ↔ k < g.deepest origin ∧ g.ring origin k = level := by
  rw [wave_eq, List.getElem?_map, Option.map_eq_some_iff]
  constructor
  · intro facts
    obtain ⟨i, inside, rfl⟩ := facts
    obtain ⟨bound, rfl⟩ := List.getElem?_eq_some_iff.1 inside
    rw [List.length_range] at bound
    rw [List.getElem_range]
    exact ⟨bound, rfl⟩
  · intro facts
    obtain ⟨bound, rfl⟩ := facts
    exact ⟨k, List.getElem?_range bound, rfl⟩

/-- A field stands in a level exactly when its distance is the number of that level. -/
theorem mem_level_iff (h : g.Represents form) {id : String} {k : Nat} :
    (∃ level, (g.wave origin)[k]? = some level ∧ id ∈ level) ↔
      g.distance? origin id = some (k + 1) := by
  constructor
  · intro facts
    obtain ⟨level, inside, member⟩ := facts
    rcases getElem?_wave.1 inside with ⟨-, rfl⟩
    exact h.mem_ring.1 member
  · intro measured
    have bound := le_deepest measured
    exact ⟨_, getElem?_wave.2 ⟨by omega, rfl⟩, h.mem_ring.2 measured⟩

/-- No level is empty, and each keeps the order of the form. -/
theorem ring_of_lt_deepest (h : g.Represents form) {k : Nat} (bound : k < g.deepest origin) :
    g.ring origin k ≠ [] ∧ (g.ring origin k).Sublist form.ids := by
  constructor
  · obtain ⟨id, deepest⟩ := h.exists_deepest (Nat.ne_zero_of_lt bound)
    obtain ⟨x, measured⟩ := h.exists_distance? deepest (Nat.succ_le_of_lt bound)
    exact List.ne_nil_of_mem (h.mem_ring.2 measured)
  · rw [← h.ids_eq]
    exact List.filter_sublist

end Represents

/-- **The levels of a wave are the greatest distances.** The wave of a field has every other field
that is reached from it, once. A field stands in the level whose number is the greatest number of
edges on a path to it. No level is empty, each is in the order of the form, and an edge between two
fields of the wave leads to a later level. What is no field has no wave. -/
theorem wave_greatest (built : ofDefinition form = .ok g) (origin : String) :
    (origin ∈ form.ids →
      (g.wave origin).flatten.Nodup ∧
      (∀ id, id ∈ (g.wave origin).flatten ↔ id ≠ origin ∧ ReflTransGen form.Edge origin id) ∧
      (∀ id k, (∃ level, (g.wave origin)[k]? = some level ∧ id ∈ level) ↔
        IsGreatest {n | Walk form.Edge origin n id} (k + 1)) ∧
      (∀ level ∈ g.wave origin, level ≠ [] ∧ level.Sublist form.ids) ∧
      ∀ (i j : Nat) (earlier later : List String), (g.wave origin)[i]? = some earlier →
        (g.wave origin)[j]? = some later →
          ∀ s ∈ earlier, ∀ d ∈ later, form.Edge s d → i < j) ∧
    (origin ∉ form.ids → g.wave origin = []) := by
  have h := represents_of_ok built
  refine ⟨fun member => ⟨h.nodup_flatten_wave origin, fun id => ?_, fun id k => ?_,
    fun level inside => ?_, fun i j earlier later first second s source d target leads => ?_⟩,
    fun absent => ?_⟩
  · rw [h.mem_flatten_wave_iff, Relation.reflTransGen_iff_eq_or_transGen]
    constructor
    · intro path
      refine ⟨?_, Or.inr path⟩
      rintro rfl
      exact h.acyclic id path
    · intro facts
      obtain ⟨differs, same | path⟩ := facts
      · exact absurd same differs
      · exact path
  · rw [h.mem_level_iff, h.distance?_eq_some_iff member]
  · obtain ⟨k, at_k⟩ := List.getElem?_of_mem inside
    rcases Represents.getElem?_wave.1 at_k with ⟨bound, rfl⟩
    exact h.ring_of_lt_deepest bound
  · have nearer := h.mem_level_iff.1 ⟨earlier, first, source⟩
    have measured := h.mem_level_iff.1 ⟨later, second, target⟩
    obtain ⟨e, further, lt⟩ := h.distance?_lt leads nearer
    rw [measured] at further
    cases further
    omega
  · rw [wave_eq, h.deepest_of_not_mem absent]
    rfl

/-! ## An example -/

/-- The total depends on the price, and also through the tax. -/
def bill : Definition :=
  { title := "Bill"
    fields := [
      { id := "total", label := "Total", kind := .number,
        content := some (.expression "{{$$.price * $$.tax}}") },
      { id := "price", label := "Price", kind := .number },
      { id := "tax", label := "Tax", kind := .number,
        content := some (.expression "{{$$.price / 5}}") }] }

theorem wave_greatest_bill : ∃ g, ofDefinition bill = .ok g ∧
    g.wave "price" = [["tax"], ["total"]] ∧
    IsGreatest {n | Walk bill.Edge "price" n "total"} 2 := by
  have wave : (ofDefinition bill).toOption.map (fun g => g.wave "price") =
      some [["tax"], ["total"]] := by
    decide +kernel
  cases built : ofDefinition bill with
  | error e =>
    rw [built] at wave
    cases wave
  | ok g =>
    rw [built] at wave
    have wave : g.wave "price" = [["tax"], ["total"]] := Option.some.inj wave
    refine ⟨g, rfl, wave, ?_⟩
    have levels := ((wave_greatest built "price").1 (by decide)).2.2.1 "total" 1
    rw [wave] at levels
    exact levels.1 ⟨["total"], rfl, List.mem_singleton_self _⟩

end Graph

end Formulary.Form
