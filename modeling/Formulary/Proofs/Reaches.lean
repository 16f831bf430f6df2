import Formulary.Proofs.Agreement

/-!
# What the waves of a field reach

A wave brings a change to a property of a field through the fields that the property refers to.
Which of these have changed when it comes to the field is a matter of the form alone: those that
the wave's origin reaches (`meets_iff`).
-/

namespace Formulary.Form

open Relation (ReflTransGen TransGen)

variable {form : Definition} {g : Graph} {f : Field} {name : PropertyName} {x o : String}
  {changed : List String}

/-- A property of the field refers to another field of the form. -/
def Definition.Refers (form : Definition) (name : PropertyName) (x : String) (f : Field) : Prop :=
  x ≠ f.id ∧ x ∈ form.ids ∧ ∃ raw, f.text? name = some raw ∧
    Template.Mentions raw.toList x.toList

/-- A change of `o` spreads to something that a property of the field refers to. -/
def Definition.Reaches (form : Definition) (o : String) (name : PropertyName) (f : Field) : Prop :=
  ∃ x, form.Refers name x f ∧ ReflTransGen form.Edge o x

/-- What reaches a field of the form is a field of the form. -/
theorem Definition.exists_field?_of_path (path : ReflTransGen form.Edge o x)
    (known : x ∈ form.ids) : ∃ f, form.field? o = some f := by
  have inside : o ∈ form.ids := by
    rcases Relation.ReflTransGen.cases_head path with rfl | ⟨y, edge, -⟩
    · exact known
    · exact edge.1
  obtain ⟨f, member, rfl⟩ := List.mem_map.1 inside
  exact Option.isSome_iff_exists.1 (List.find?_isSome.2 ⟨f, member, by simp⟩)

theorem Graph.Represents.refers_iff (h : g.Represents form) (member : f ∈ form.fields) :
    form.Refers name x f ↔ x ≠ f.id ∧ x ∈ g.context f.id name := by
  rw [h.mem_context member, Definition.Refers]
  constructor
  · rintro ⟨differs, known, raw, text, mentioned⟩
    exact ⟨differs, raw, text, known, mentioned⟩
  · rintro ⟨differs, raw, text, known, mentioned⟩
    exact ⟨differs, known, raw, text, mentioned⟩

theorem Graph.Represents.edge_of_refers (h : g.Represents form) (member : f ∈ form.fields)
    (refers : form.Refers name x f) : form.Edge x f.id := by
  obtain ⟨differs, referred⟩ := (h.refers_iff member).1 refers
  exact h.edge_of_mem_context referred differs

/-- A wave of the field itself reaches none of its properties. -/
theorem Graph.Represents.not_reaches_self (h : g.Represents form) (member : f ∈ form.fields) :
    ¬ form.Reaches f.id name f := by
  rintro ⟨x, refers, path⟩
  exact h.acyclic f.id (TransGen.tail' path (h.edge_of_refers member refers))

/-- **What a property refers to has changed at the field's turn just if the wave reaches it.** -/
theorem Graph.Represents.meets_iff (h : g.Represents form) (member : f ∈ form.fields)
    (turn : (g.start o).Turn changed f.id) :
    (∃ x ∈ g.context f.id name, x ∈ changed) ↔ form.Reaches o name f := by
  obtain ⟨unchanged, -⟩ := h.of_turn turn
  constructor
  · rintro ⟨x, referred, met⟩
    have differs : x ≠ f.id := by
      rintro rfl
      exact unchanged met
    have refers := (h.refers_iff member).2 ⟨differs, referred⟩
    exact ⟨x, refers, (h.mem_changed_iff turn (h.edge_of_refers member refers)).1 met⟩
  · rintro ⟨x, refers, path⟩
    refine ⟨x, ((h.refers_iff member).1 refers).2, ?_⟩
    exact (h.mem_changed_iff turn (h.edge_of_refers member refers)).2 path

/-- A wave that reaches what a property refers to brings it to the field. -/
theorem Graph.Represents.brings_of_reaches (h : g.Represents form) (member : f ∈ form.fields)
    {context : List String} (reads : ∀ x, form.Refers name x f → x ∈ context)
    (reaches : form.Reaches o name f) : (g.start o).Brings context f.id := by
  obtain ⟨x, refers, path⟩ := reaches
  exact h.brings_of_path (reads x refers) (h.edge_of_refers member refers) path

/-- Changes of other fields have a property computed if they are of one that it refers to. -/
theorem Session.Fits.needs_iff {s : Session} {env : Environment} (fits : s.Fits form g)
    {trigger : String} :
    (s.surroundings env).needs f name (.others changed trigger) = true ↔
      ∃ x ∈ g.context f.id name, x ∈ changed := by
  have graph : (s.surroundings env).graph = g := fits.ofGraph
  rw [Surroundings.needs, graph, List.any_eq_true]
  simp only [List.contains_iff_mem]

/-! ## What computing the value brings about -/

section Value

open Session

variable {s : Session} {A : List String → Prop} {P : Session → Prop}

/-- A fact about a field that computing its value brings about is followed on the other fields to
which the content refers. -/
theorem Graph.Represents.follows_value (h : g.Represents form)
    (timeless : ∀ (s : Session) (schedule : Schedule String), P s →
      P { s with schedule := schedule })
    (others : ∀ (s : Session) env f' change, f'.id ≠ f.id → P s → P (s.refresh env f' change))
    (computed : ∀ (s : Session) env changed trigger, s.Fits form g →
      (s.surroundings env).needs f .value (.others changed trigger) = true →
        P (s.refresh env f (.others changed trigger)))
    (kept : ∀ (s : Session) env changed trigger, A changed → s.Fits form g →
      (s.surroundings env).needs f .value (.others changed trigger) = false → P s →
        P (s.refresh env f (.others changed trigger))) :
    Follows (fun _ => True) (fun changed => f.id ∉ changed ∧ A changed) form g f
      ((g.context f.id .value).filter (· ≠ f.id)) P where
  sources := by
    intro x among
    obtain ⟨referred, differs⟩ := List.mem_filter.1 among
    exact h.edge_of_mem_context referred (of_decide_eq_true differs)
  timeless := timeless
  others := fun s env f' change _ _ differs _ => others s env f' change differs
  renewed := by
    rintro s env changed trigger - - fits ⟨x, among, met⟩
    exact computed s env changed trigger fits
      (fits.needs_iff.2 ⟨x, (List.mem_filter.1 among).1, met⟩)
  kept := by
    rintro s env changed trigger - ⟨unchanged, admitted⟩ fits unmet
    refine kept s env changed trigger admitted fits (Bool.eq_false_iff.2 fun needed => unmet ?_)
    obtain ⟨x, referred, met⟩ := fits.needs_iff.1 needed
    refine ⟨x, List.mem_filter.2 ⟨referred, decide_eq_true ?_⟩, met⟩
    rintro rfl
    exact unchanged met

/-- **Such a fact holds when nothing waits**, if it held before, or the run starts with an edit that
has the value computed. -/
theorem Follows.actAll_since
    (t : Follows (fun _ => True) A form g f ((g.context f.id .value).filter (· ≠ f.id)) P)
    (h : g.Represents form) (fits : s.Fits form g) (member : f ∈ form.fields)
    {steps : List (Environment × Action)}
    (own : ∀ (s : Session) env raw, s.Fits form g → P (s.refresh env f (.user raw)))
    (since : P s ∨ ∃ env o raw rest, steps = (env, .edit o raw) :: rest ∧
      (o = f.id ∨ form.Reaches o .value f))
    (admits : ∀ o, (o ∈ s.waiting ∨ ∃ step ∈ steps, ∃ raw, step.2 = .edit o raw) →
      g.Admits A f.id o)
    (ordinary : ∀ step ∈ steps, ∀ id trigger, step.2 ≠ .sourceChanged id trigger)
    (idle : (s.actAll steps).schedule.isIdle = true) : P (s.actAll steps) := by
  have known := Definition.field?_of_mem h.unique member
  have admits : ∀ o, (o ∈ s.waiting ∨ ∃ step ∈ steps, step.2.origin? = some o) →
      g.Admits A f.id o := by
    intro o starts
    refine admits o (starts.imp_right ?_)
    rintro ⟨step, inside, origin⟩
    exact ⟨step, inside, Action.edit_of_origin? origin (ordinary step inside)⟩
  rcases since with before | ⟨env, o, raw, rest, rfl, computes⟩
  · have inv := t.actAll known h fits (fun _ _ => trivial) (fun _ _ _ _ u fits _ => own u _ _ fits)
      admits (fun step among trigger changes => absurd changes (ordinary step among _ _))
      (Or.inl before)
    exact inv.resolve_right (not_owes_of_isIdle idle)
  · obtain ⟨f', edited⟩ : ∃ f', form.field? o = some f' := by
      rcases computes with rfl | ⟨x, ⟨-, known, -⟩, path⟩
      · exact ⟨f, known⟩
      · exact Definition.exists_field?_of_path path known
    obtain ⟨-, rfl⟩ := Definition.mem_of_field? edited
    refine (t.actAll_edit known h fits edited (fun _ _ => trivial)
      (fun _ _ _ _ u fits _ => own u _ _ fits) admits (fun step among trigger changes =>
        absurd changes (ordinary step (List.mem_cons_of_mem _ among) _ _)) ?_).resolve_right
      (not_owes_of_isIdle idle)
    rcases computes with same | reaches
    · rw [same, known] at edited
      cases edited
      exact Or.inl (own s env raw fits)
    · refine Or.inr (h.brings_of_reaches member (fun x refers => ?_) reaches)
      obtain ⟨differs, referred⟩ := (h.refers_iff member).1 refers
      exact List.mem_filter.2 ⟨referred, decide_eq_true differs⟩

end Value

end Formulary.Form
