import Formulary.Proofs.Acceptance
import Formulary.Proofs.Agreement
import Formulary.Proofs.Checked

/-!
# References on record

The graph of a form is read off the whole texts of its properties, once. Evaluating a text cuts it
differently: first the block, then the block at documents, then each piece at fields. Both find the
same references, so the values on record for a property are all that its text reads
(`evaluateText_restrict`). A reference is the mark with the longest run of letters, digits and
dashes, so a field can be referred to just if its id is such a run (`referenced_iff`).
-/

namespace Formulary.Template

variable {context : Context} {s a b name : List Char} {before after : List Cut}

/-! ## Names in references -/

/-- The name can stand in a reference. -/
def Referable (name : List Char) : Prop := name ≠ [] ∧ ∀ c ∈ name, isFieldChar c = true

instance (name : List Char) : Decidable (Referable name) := inferInstanceAs (Decidable (_ ∧ _))

theorem Mentions.referable (mentioned : Mentions s name) : Referable name := by
  obtain ⟨_, _, -, some, inside, -⟩ := mentioned
  exact ⟨some, inside⟩

/-- A reference is quoted by itself, apart from what stands before and after it. -/
theorem quoteFields_around (context : Context) (a : List Char) (referable : Referable name)
    (ends : ∀ c ∈ b.head?, isFieldChar c = false) :
    quoteFields context (a ++ '$' :: '$' :: '.' :: (name ++ b)) =
      quoteFields context a ++
        (Json.quoted (fieldValue context name) ++ quoteFields context b) := by
  have found : fieldAt? ('$' :: '$' :: '.' :: (name ++ b)) = some (name, b) :=
    fieldAt?_eq_some_iff.2 ⟨rfl, referable.1, referable.2, ends⟩
  rw [(apart_reference (name ++ b)).quoteFields, quoteFields_reference context found]

/-! ## Pieces of an expression -/

theorem resolveCuts_append (store : DocumentStore) (context : Context) (before after : List Cut) :
    resolveCuts store context (before ++ after) = do
      let x ← resolveCuts store context before
      let y ← resolveCuts store context after
      return x ++ y := by
  induction before with
  | nil => simp only [List.nil_append, resolveCuts, pure_bind, bind_pure]
  | cons cut before ih =>
    cases cut <;>
      simp only [List.cons_append, resolveCuts, ih, bind_assoc, pure_bind, List.append_assoc]

/-- **A reference is resolved to the quoted value of its field**, in its place, and what stands
before and after it is resolved as if it stood alone. -/
theorem resolve_around (store : DocumentStore) (context : Context)
    (cuts : documentCuts s = before ++ .text (a ++ '$' :: '$' :: '.' :: (name ++ b)) :: after)
    (referable : Referable name) (ends : ∀ c ∈ b.head?, isFieldChar c = false) :
    resolve store context s = do
      let x ← resolveCuts store context (before ++ [.text a])
      let y ← resolveCuts store context (.text b :: after)
      return x ++ Json.quoted (fieldValue context name) ++ y := by
  unfold resolve
  rw [cuts, resolveCuts_append, resolveCuts_append]
  simp [resolveCuts, quoteFields_around context a referable ends]

end Formulary.Template

namespace Formulary.Form

open Template (Context Cut AgreeOn Parts Referable isFieldChar documentCuts fieldValue resolve
  resolveCuts answer)

variable {form : Definition} {g : Graph} {f d : Field} {name : PropertyName} {raw : String}

/-! ## A form with one field that shows another -/

def signUp (id text : String) : Definition where
  title := "Sign-up"
  fields := [{ id := id, label := "First name", kind := .text },
    { id := "greeting", label := "Greeting", kind := .text, content := some (.expression text) }]

/-- Ann has signed up. -/
def ann : Context := fun id => if id = "first-name" then some "Ann" else none

theorem accepted_signUp :
    ∃ g, Graph.ofDefinition (signUp "first-name" "{{$$.first-name}}") = .ok g :=
  Session.exists_ok_of_isSome (by decide +kernel)

/-! ## Values on record -/

/-- The values of the fields that a property refers to, by the graph. -/
def Graph.restrict (g : Graph) (id : String) (name : PropertyName) (values : Context) : Context :=
  fun x => if (g.context id name).contains x then values x else none

/-- What a text of the form mentions of the form is on record for it. -/
theorem Graph.Represents.agreeOn_restrict (h : g.Represents form) (member : f ∈ form.fields)
    (source : (name, raw) ∈ f.sources) {values : Context}
    (only : ∀ id, id ∉ form.ids → values id = none) :
    AgreeOn (g.restrict f.id name values) values raw.toList := by
  intro id mentioned
  unfold Graph.restrict
  by_cases known : id ∈ form.ids
  · have referred : id ∈ g.context f.id name :=
      (h.mem_context member).2 ⟨raw, Field.mem_sources.1 source, known, mentioned⟩
    rw [if_pos (List.contains_iff_mem.2 referred)]
  · rw [only id known, ite_self]

/-- **The values on record for a property are all that it reads**: on these alone its text comes to
the same value, with the same look-ups and notices, as on the values of all fields. -/
theorem evaluateText_restrict (built : Graph.ofDefinition form = .ok g) (member : f ∈ form.fields)
    (source : (name, raw) ∈ f.sources) (now : Calendar.Instant) (store : DocumentStore)
    (values : Context) (only : ∀ id, id ∉ form.ids → values id = none) (t : Template.Trace) :
    (Template.evaluateText now store (g.restrict f.id name values) raw).run t =
      (Template.evaluateText now store values raw).run t := by
  have h := Graph.represents_of_ok built
  rw [Template.evaluateText_congr now store (h.agreeOn_restrict member source only)]

theorem evaluateText_restrict_signUp :
    ∃ g, Graph.ofDefinition (signUp "first-name" "{{$$.first-name}}") = .ok g ∧
      ∀ now store t,
        (Template.evaluateText now store (g.restrict "greeting" .value ann)
          "{{$$.first-name}}").run t =
        (Template.evaluateText now store ann "{{$$.first-name}}").run t := by
  obtain ⟨g, built⟩ := accepted_signUp
  refine ⟨g, built, fun now store t => ?_⟩
  refine evaluateText_restrict built (List.mem_cons_of_mem _ List.mem_cons_self)
    List.mem_cons_self now store _ (fun id foreign => ?_) t
  refine if_neg fun same => foreign ?_
  rw [same]
  exact List.mem_cons_self

/-- What a field is computed on are the values on record. -/
theorem context_eq_restrict (s : Surroundings) (f : Field) (name : PropertyName)
    (state : FieldState) : s.context f name state =
      s.graph.restrict f.id name fun id => if id = f.id then some state.value else s.values id :=
  rfl

/-! ## Fields that can be referred to -/

/-- **A field can be referred to just if its id is a run of letters, digits and dashes.** Where the
mark with such an id stands in a content, the field is among the sources, and its quoted value takes
the place of the reference. Any other id stands there in vain: the field is no source, and its value
changes nothing. -/
theorem referenced_iff (built : Graph.ofDefinition form = .ok g) (source_mem : f ∈ form.fields)
    (member : d ∈ form.fields) (differ : f.id ≠ d.id) (source : (.value, raw) ∈ d.sources)
    {before after : List Cut} {a b : List Char}
    (cuts : documentCuts (Parts.ofText raw.toList).expression =
      before ++ .text (a ++ '$' :: '$' :: '.' :: (f.id.toList ++ b)) :: after)
    (ends : ∀ c ∈ b.head?, isFieldChar c = false) :
    (Referable f.id.toList → f.id ∈ g.sources d.id ∧ ∀ store context,
      resolve store context (Parts.ofText raw.toList).expression = do
        let x ← resolveCuts store context (before ++ [.text a])
        let y ← resolveCuts store context (.text b :: after)
        return x ++ Json.quoted (fieldValue context f.id.toList) ++ y) ∧
    (¬ Referable f.id.toList → f.id ∉ g.sources d.id ∧ ∀ store context value,
      resolve store (Function.update context f.id value) (Parts.ofText raw.toList).expression =
        resolve store context (Parts.ofText raw.toList).expression) := by
  have h := Graph.represents_of_ok built
  constructor
  · intro referable
    refine ⟨h.mem_sources.2 ⟨List.mem_map_of_mem source_mem, differ, d, member, rfl,
      (.value, raw), source, ?_⟩, fun store context =>
        Template.resolve_around store context cuts referable ends⟩
    refine Template.mentions_of_expression (Template.mentions_of_mem_documentCuts
      (cuts ▸ List.mem_append_right before List.mem_cons_self) ?_)
    exact ⟨a, b, rfl, referable.1, referable.2, ends⟩
  · intro unreferable
    constructor
    · intro among
      obtain ⟨-, -, -, -, -, p, -, mentioned⟩ := h.mem_sources.1 among
      exact unreferable mentioned.referable
    · intro store context value
      refine Template.resolve_congr store fun id mentioned => ?_
      have differs : id ≠ f.id := fun same => unreferable (same ▸ mentioned.referable)
      exact Function.update_of_ne differs value context

theorem referenced_iff_signUp :
    ∃ g, Graph.ofDefinition (signUp "first-name" "{{$$.first-name}}") = .ok g ∧
      "first-name" ∈ g.sources "greeting" ∧ ∀ store context,
        answer (resolve store context "$$.first-name".toList) =
          Json.quoted (fieldValue context "first-name".toList) := by
  obtain ⟨g, built⟩ := accepted_signUp
  have block : (Parts.ofText "{{$$.first-name}}".toList).expression = "$$.first-name".toList := by
    decide +kernel
  have cuts : documentCuts (Parts.ofText "{{$$.first-name}}".toList).expression =
      [] ++ .text ([] ++ '$' :: '$' :: '.' :: ("first-name".toList ++ [])) :: [] := by
    decide +kernel
  have facts := (referenced_iff built List.mem_cons_self
    (List.mem_cons_of_mem _ List.mem_cons_self) (by decide) List.mem_cons_self cuts
    (by simp)).1 (by decide)
  refine ⟨g, built, facts.1, fun store context => ?_⟩
  rw [← block, facts.2 store context]
  simp only [List.nil_append, resolveCuts, Template.quoteFields_nil, pure_bind, List.append_nil]
  rfl

/-- An accepted form with a field that no text can refer to: of `$$.first_name` only `$$.first` is
read, which is no field. -/
theorem unreferenced_signUp :
    ∃ g, Graph.ofDefinition (signUp "first_name" "{{$$.first_name}}") = .ok g ∧
      documentCuts (Parts.ofText "{{$$.first_name}}".toList).expression =
        [.text ('$' :: '$' :: '.' :: "first_name".toList)] ∧
      "first_name" ∉ g.sources "greeting" ∧
      ∀ store, answer (resolve store (fun id => if id = "first_name" then some "Ann" else none)
        ('$' :: '$' :: '.' :: "first_name".toList)) = "\"\"_name".toList := by
  have sources : (Graph.ofDefinition (signUp "first_name" "{{$$.first_name}}")).toOption.map
      (fun g => g.sources "greeting") = some [] := by
    decide +kernel
  have plain : Template.names (documentCuts ('$' :: '$' :: '.' :: "first_name".toList)) = [] := by
    decide +kernel
  have quoted : Template.quoteFields (fun id => if id = "first_name" then some "Ann" else none)
      ('$' :: '$' :: '.' :: "first_name".toList) = "\"\"_name".toList := by
    decide +kernel
  cases built : Graph.ofDefinition (signUp "first_name" "{{$$.first_name}}") with
  | error e =>
    rw [built] at sources
    cases sources
  | ok g =>
    rw [built] at sources
    have none : g.sources "greeting" = [] := Option.some.inj sources
    refine ⟨g, rfl, by decide +kernel, by rw [none]; exact List.not_mem_nil, fun store => ?_⟩
    rw [Template.resolve_eq_quoteFields store _ plain, quoted]

end Formulary.Form
