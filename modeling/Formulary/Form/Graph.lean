import Formulary.Form.Definition
import Formulary.Form.Error

/-!
# The dependency graph of a form

An edge runs from a field to every other field that refers to it. A form whose edges form a cycle,
or that uses an id twice, has no graph. From the graph come the order in which fields are first
computed and the levels in which a change spreads.
-/

namespace Formulary.Form

/-- A field with the form's fields that each of its properties refers to. -/
structure Node where
  id : String
  contexts : List (PropertyName × List String)
  deriving DecidableEq

/-- The node of a field among the ids of a form. -/
def Node.ofField (ids : List String) (f : Field) : Node :=
  ⟨f.id, f.sources.map fun (name, source) =>
    (name, (Template.referencedFields source.toList).filter (ids.contains ·))⟩

/-- Some property of the node refers to `id`. -/
def Node.reads (n : Node) (id : String) : Bool := n.contexts.any (·.2.contains id)

/-- The node depends on `source`: it refers to it and is another field. -/
def Node.dependsOn (n : Node) (source : String) : Bool := n.reads source && n.id != source

/-- The nodes of a form in the order of its fields, and the order in which they are computed. -/
structure Graph where
  nodes : List Node
  order : List String

namespace Graph

/-- The ids of the fields that a node depends on, in the order of the form. -/
def sourcesIn (nodes : List Node) (n : Node) : List String :=
  (nodes.map Node.id).filter n.dependsOn

/-! ## Order -/

/-- The node depends on nothing that is still pending. -/
def isReady (pending : List Node) (n : Node) : Bool := pending.all fun p => !n.dependsOn p.id

/-- Takes the first ready node again and again: the order in which the nodes were taken, and the
nodes that never became ready. -/
def takeReady (pending : List Node) : List String × List Node :=
  match _h : pending.find? (isReady pending) with
  | none => ([], pending)
  | some n =>
    let (order, stuck) := takeReady (pending.erase n)
    (n.id :: order, stuck)
termination_by pending.length
decreasing_by
  have hmem := List.mem_of_find?_eq_some _h
  have := List.length_pos_of_mem hmem
  rw [List.length_erase_of_mem hmem]
  omega

/-! ## Cycles -/

/-- The first of the stuck nodes that the stuck node of an id depends on. -/
def stuckSource? (stuck : List Node) (id : String) : Option String :=
  (stuck.find? (·.id = id)).bind fun n => (stuck.map Node.id).find? n.dependsOn

/-- Walks from a node to its first stuck source until a node comes up again. `walk` is the way so
far, last first, and `fresh` the ids not yet on it. The path found follows the edges from its
first field back to that field. -/
def cycleFrom (stuck : List Node) (walk fresh : List String) : List String :=
  match walk with
  | [] => []
  | current :: walk =>
    match stuckSource? stuck current with
    | none => (current :: walk).reverse
    | some next =>
      if _h : next ∈ fresh then cycleFrom stuck (next :: current :: walk) (fresh.erase next)
      else (current :: walk).takeWhile (· != next) ++ [next, current]
termination_by fresh.length
decreasing_by
  have := List.length_pos_of_mem _h
  rw [List.length_erase_of_mem _h]
  omega

/-- A cycle among nodes that never become ready. -/
def cycle : List Node → List String
  | [] => []
  | n :: stuck => cycleFrom (n :: stuck) [n.id] (stuck.map Node.id)

/-! ## Building -/

/-- The first id that was there before. -/
def firstRepeated? (seen : List String) : List String → Option String
  | [] => none
  | id :: ids => if seen.contains id then some id else firstRepeated? (id :: seen) ids

/-- The graph of a form. -/
def ofDefinition (form : Definition) : Except Error Graph :=
  match firstRepeated? [] form.ids with
  | some id => .error (.duplicateIdentifier id)
  | none =>
    let nodes := form.fields.map (Node.ofField form.ids)
    match takeReady nodes with
    | (order, []) => .ok ⟨nodes, order⟩
    | (_, stuck) => .error (.cyclicDependency (cycle stuck))

/-! ## Views -/

/-- The ids of the fields, in the order of the form. -/
def ids (g : Graph) : List String := g.nodes.map Node.id

def node? (g : Graph) (id : String) : Option Node := g.nodes.find? (·.id = id)

/-- The form's fields that a property refers to, in order of first reference. -/
def context (g : Graph) (id : String) (name : PropertyName) : List String :=
  ((g.node? id).bind (·.contexts.lookup name)).getD []

/-- The fields that a field depends on, in the order of the form. -/
def sources (g : Graph) (id : String) : List String :=
  ((g.node? id).map (sourcesIn g.nodes)).getD []

/-- The fields that depend on a field, in the order of the form. -/
def dependents (g : Graph) (id : String) : List String :=
  (g.nodes.filter (·.dependsOn id)).map Node.id

/-! ## Waves -/

/-- The number after the largest of some numbers. -/
def oneAbove? (depths : List Nat) : Option Nat := depths.max?.map (· + 1)

/-- The longest distances from `origin`, for the ids of `order` after those already measured. -/
def depths (g : Graph) (origin : String) (measured : List (String × Nat)) :
    List String → List (String × Nat)
  | [] => measured
  | id :: order =>
    let depth := if id = origin then some 0
      else oneAbove? ((g.sources id).filterMap fun source => measured.lookup source)
    match depth with
    | some d => g.depths origin ((id, d) :: measured) order
    | none => g.depths origin measured order

/-- The fields that a change of `origin` reaches, by their longest distance from it. -/
def wave (g : Graph) (origin : String) : List (List String) :=
  let measured := g.depths origin [] g.order
  let deepest := ((measured.map Prod.snd).max?).getD 0
  (List.range deepest).map fun k => g.ids.filter fun id => measured.lookup id == some (k + 1)

end Graph

end Formulary.Form
