import Formulary.Form.Graph
import Mathlib.Data.List.Chain
import Mathlib.Data.List.Nodup
import Mathlib.Logic.Relation

/-!
# Taking nodes in order, and what stops it

`takeReady` takes a node when nothing it depends on is pending. Either it takes every node, each
after all it depends on (`takeReady_perm`, `takeReady_ordered`), or every node that is left depends
on another one left (`takeReady_waits`). A walk along such nodes must come back to itself, and the
path it reports is a cycle (`cycle_closed`).
-/

namespace Formulary.Form

/-- Among things of different keys, a search by the key of one of them finds that one. -/
theorem find?_of_unique {α : Type} {key : α → String} {xs : List α} (unique : (xs.map key).Nodup)
    {x : α} (member : x ∈ xs) : xs.find? (fun y => decide (key y = key x)) = some x := by
  cases h : xs.find? (fun y => decide (key y = key x)) with
  | none => simpa using List.find?_eq_none.1 h x member
  | some y =>
    have same : key y = key x := by simpa using List.find?_some h
    rw [List.inj_on_of_nodup_map unique (List.mem_of_find?_eq_some h) member same]

/-- A path that follows the edges from a field back to it, and meets no other field twice. -/
def ClosedPath (edge : String → String → Prop) (path : List String) : Prop :=
  ∃ x inner, path = x :: inner ++ [x] ∧ (x :: inner).Nodup ∧ path.IsChain edge

/-- A closed path stays one along more edges. -/
theorem ClosedPath.mono {edge edge' : String → String → Prop} {path : List String}
    (more : ∀ s d, edge s d → edge' s d) (h : ClosedPath edge path) : ClosedPath edge' path := by
  rcases h with ⟨x, inner, shape, once, follows⟩
  exact ⟨x, inner, shape, once, follows.imp more⟩

/-- A closed path leads from its field back to it. -/
theorem ClosedPath.transGen {edge : String → String → Prop} {path : List String}
    (h : ClosedPath edge path) : ∃ x, Relation.TransGen edge x x := by
  rcases h with ⟨x, inner, rfl, -, follows⟩
  refine ⟨x, ?_⟩
  have reach : ∀ (inner : List String) (a : String), (a :: inner ++ [x]).IsChain edge →
      Relation.TransGen edge a x := by
    intro inner
    induction inner with
    | nil =>
      intro a follows
      exact .single (List.isChain_pair.1 follows)
    | cons b inner ih =>
      intro a follows
      rw [List.cons_append, List.cons_append, List.isChain_cons_cons] at follows
      exact .head follows.1 (ih b follows.2)
  exact reach inner x follows

namespace Graph

/-- An edge among nodes: the node of id `d` depends on a node of id `s`. -/
def Edge (nodes : List Node) (s d : String) : Prop :=
  s ∈ nodes.map Node.id ∧ ∃ n ∈ nodes, n.id = d ∧ n.dependsOn s = true

theorem Edge.mono {few nodes : List Node} {s d : String} (sub : few ⊆ nodes)
    (h : Edge few s d) : Edge nodes s d := by
  rcases h with ⟨source, n, member, named, depends⟩
  exact ⟨List.map_subset Node.id sub source, n, sub member, named, depends⟩

theorem Edge.ne {nodes : List Node} {s d : String} (h : Edge nodes s d) : s ≠ d := by
  rcases h with ⟨-, n, -, rfl, depends⟩
  rintro rfl
  simp [Node.dependsOn] at depends

theorem isReady_iff {pending : List Node} {n : Node} :
    isReady pending n = true ↔ ∀ p ∈ pending, n.dependsOn p.id = false := by
  simp [isReady]

/-! ## Taking ready nodes -/

/-- Each node is taken or left over. -/
theorem takeReady_perm (pending : List Node) :
    ((takeReady pending).1 ++ (takeReady pending).2.map Node.id).Perm (pending.map Node.id) := by
  fun_induction takeReady pending with
  | case1 pending h => exact .refl _
  | case2 pending n h order stuck eq ih =>
    rw [eq] at ih
    have split := (List.perm_cons_erase (List.mem_of_find?_eq_some h)).map Node.id
    exact (ih.cons n.id).trans split.symm

theorem takeReady_subset (pending : List Node) : (takeReady pending).2 ⊆ pending := by
  fun_induction takeReady pending with
  | case1 pending h => exact List.Subset.refl _
  | case2 pending n h order stuck eq ih =>
    rw [eq] at ih
    exact List.Subset.trans ih List.erase_subset

/-- The nodes left over have different ids when all nodes have. -/
theorem takeReady_nodup {pending : List Node} (unique : (pending.map Node.id).Nodup) :
    ((takeReady pending).1 ++ (takeReady pending).2.map Node.id).Nodup :=
  (takeReady_perm pending).nodup_iff.2 unique

/-- What is left over waits for something left over. -/
theorem takeReady_waits (pending : List Node) {n : Node} (left : n ∈ (takeReady pending).2) :
    ∃ p ∈ (takeReady pending).2, n.dependsOn p.id = true := by
  fun_induction takeReady pending with
  | case1 pending h =>
    have waits := List.find?_eq_none.1 h n left
    simpa [isReady] using waits
  | case2 pending m h order stuck eq ih =>
    rw [eq] at ih
    exact ih left

/-- No node is taken before one that it depends on. -/
theorem takeReady_ordered {pending : List Node} (unique : (pending.map Node.id).Nodup) :
    (takeReady pending).1.Pairwise fun x y => ¬ Edge pending y x := by
  fun_induction takeReady pending with
  | case1 pending h => exact .nil
  | case2 pending n h order stuck eq ih =>
    have member := List.mem_of_find?_eq_some h
    have ready := isReady_iff.1 (List.find?_some h)
    have perm := (List.perm_cons_erase member).map Node.id
    have rest : (n.id :: (pending.erase n).map Node.id).Nodup := perm.nodup_iff.1 unique
    have fresh := (List.nodup_cons.1 rest).1
    have later : ∀ x ∈ order, x ∈ (pending.erase n).map Node.id := by
      intro x taken
      have all := takeReady_perm (pending.erase n)
      rw [eq] at all
      exact all.subset (List.mem_append_left _ taken)
    rw [eq] at ih
    refine List.pairwise_cons.2 ⟨?_, (ih (List.nodup_cons.1 rest).2).imp_of_mem ?_⟩
    · rintro y taken ⟨-, m, inside, same, depends⟩
      have one : m = n := List.inj_on_of_nodup_map unique inside member same
      rcases List.mem_map.1 (later y taken) with ⟨p, left, rfl⟩
      rw [one, ready p (List.mem_of_mem_erase left)] at depends
      cases depends
    · rintro x y taken taken' none ⟨-, m, inside, rfl, depends⟩
      have other : m ≠ n := by
        rintro rfl
        exact fresh (later m.id taken)
      exact none ⟨later y taken', m, (List.mem_erase_of_ne other).2 inside, rfl, depends⟩

/-! ## Walking back -/

variable {stuck : List Node}

/-- A walk closed by an edge from a field on it, cut off at that field. -/
theorem closedPath_of_walk {edge : String → String → Prop} {current next : String}
    {walk : List String} (once : (current :: walk).Nodup)
    (follows : (current :: walk).IsChain edge) (met : next ∈ walk) (back : edge next current) :
    ClosedPath edge ((current :: walk).takeWhile (· != next) ++ [next, current]) := by
  rcases List.eq_append_cons_of_mem met with ⟨before, after, rfl, absent⟩
  have differs : current ≠ next := by
    rintro rfl
    exact (List.nodup_cons.1 once).1 met
  have taken : (current :: (before ++ next :: after)).takeWhile (· != next) =
      current :: before := by
    have passed : ∀ x ∈ current :: before, (x != next) = true := by
      intro x member
      rcases List.mem_cons.1 member with rfl | member
      · simpa using differs
      · simpa using fun (same : x = next) => absent (same ▸ member)
    rw [← List.cons_append, List.takeWhile_append_of_pos passed]
    simp
  have start : (current :: (before ++ [next])).IsPrefix (current :: (before ++ next :: after)) :=
    ⟨after, by simp⟩
  refine ⟨current, before ++ [next], by rw [taken]; simp, once.sublist start.sublist, ?_⟩
  rw [taken]
  have first : ((current :: before) ++ [next]).IsChain edge := follows.prefix start
  have whole : ((current :: before) ++ [next] ++ [current]).IsChain edge := by
    refine List.isChain_append.2 ⟨first, .singleton _, ?_⟩
    intro x last y head
    rw [List.getLast?_concat, Option.mem_some_iff] at last
    rw [List.head?_cons, Option.mem_some_iff] at head
    exact last ▸ head ▸ back
  simpa using whole

/-- Wherever a walk stands, it finds a next field. -/
theorem stuckSource?_of_waits (unique : (stuck.map Node.id).Nodup)
    (waits : ∀ n ∈ stuck, ∃ p ∈ stuck, n.dependsOn p.id = true) {current : String}
    (inside : current ∈ stuck.map Node.id) :
    ∃ next, stuckSource? stuck current = some next ∧ Edge stuck next current := by
  rcases List.mem_map.1 inside with ⟨n, member, rfl⟩
  rcases waits n member with ⟨p, left, depends⟩
  cases h : (stuck.map Node.id).find? n.dependsOn with
  | none => exact absurd depends (List.find?_eq_none.1 h p.id (List.mem_map_of_mem left))
  | some next =>
    refine ⟨next, by rw [stuckSource?, find?_of_unique unique member]; exact h,
    List.mem_of_find?_eq_some h, n, member,
      rfl, ?_⟩
    exact List.find?_some h

/-- The walk ends in a cycle. It goes on while the next field is fresh, and when that one has come
up before, the fields since then close a path. -/
theorem cycleFrom_closed (unique : (stuck.map Node.id).Nodup)
    (waits : ∀ n ∈ stuck, ∃ p ∈ stuck, n.dependsOn p.id = true) {walk fresh : List String}
    (all : (walk ++ fresh).Perm (stuck.map Node.id)) (nonempty : walk ≠ [])
    (follows : walk.IsChain (Edge stuck)) :
    ClosedPath (Edge stuck) (cycleFrom stuck walk fresh) := by
  fun_induction cycleFrom stuck walk fresh with
  | case1 fresh => exact absurd rfl nonempty
  | case2 fresh current walk h =>
    have inside := all.subset (List.mem_append_left fresh (List.mem_cons_self (a := current)))
    rcases stuckSource?_of_waits unique waits inside with ⟨next, found, -⟩
    rw [h] at found
    cases found
  | case3 fresh current walk next h isFresh ih =>
    have inside := all.subset (List.mem_append_left fresh (List.mem_cons_self (a := current)))
    rcases stuckSource?_of_waits unique waits inside with ⟨next', found, edge⟩
    obtain rfl : next' = next := Option.some.inj (found.symm.trans h)
    refine ih (List.Perm.trans ?_ all) (List.cons_ne_nil _ _)
      (List.isChain_cons_cons.2 ⟨edge, follows⟩)
    have moved := (List.perm_cons_erase isFresh).append_left (current :: walk)
    exact (moved.trans List.perm_middle).symm
  | case4 fresh current walk next h notFresh =>
    have inside := all.subset (List.mem_append_left fresh (List.mem_cons_self (a := current)))
    rcases stuckSource?_of_waits unique waits inside with ⟨next', found, edge⟩
    obtain rfl : next' = next := Option.some.inj (found.symm.trans h)
    have once : (current :: walk).Nodup := (all.nodup_iff.2 unique).of_append_left
    have met : next' ∈ walk := by
      rcases List.mem_append.1 (all.symm.subset edge.1) with onWalk | isFresh
      · exact (List.mem_cons.1 onWalk).resolve_left edge.ne
      · exact absurd isFresh notFresh
    exact closedPath_of_walk once follows met edge

/-- Nodes that all wait for one another contain a cycle, and `cycle` finds one. -/
theorem cycle_closed (unique : (stuck.map Node.id).Nodup)
    (waits : ∀ n ∈ stuck, ∃ p ∈ stuck, n.dependsOn p.id = true) (nonempty : stuck ≠ []) :
    ClosedPath (Edge stuck) (cycle stuck) := by
  cases stuck with
  | nil => exact absurd rfl nonempty
  | cons n stuck =>
    exact cycleFrom_closed unique waits (.refl _) (List.cons_ne_nil _ _) (.singleton _)

end Graph

end Formulary.Form
