import Formulary.Form.Refresh
import Formulary.Proofs.TextValue

/-!
# What computing a field comes to

A computation over a field adds to what was said and to the record, and reads neither
(`About`). So it has an outcome from each state of the field, whatever came before: `outcome`. The
outcome of a sequence is put together from those of its parts (`outcome_bind`).

* `about_refresh`: computing a field is such a computation, and all that it says is about the field.
* `refresh_congr`: of the other fields it reads those that some property refers to.
-/

namespace Formulary.Form

open Template (Property)

/-- What a computation comes to: its answer, the field's state after it, and what it says. -/
structure Outcome (α : Type) where
  answer : α
  own : FieldState
  said : List Update

/-- What a computation comes to from a state of the field. -/
def outcome {α : Type} (m : RefreshM α) (state : FieldState) : Outcome α :=
  let run := m.run ⟨state, [], {}⟩
  ⟨run.1, run.2.own, run.2.updates⟩

/-- A computation about a field: it comes to the same, whatever was said before and is on record,
to which it adds, and all that it says is about the field. -/
structure About {α : Type} (i : String) (m : RefreshM α) : Prop where
  run : ∀ p : Progress, ∃ more, m.run p = ((outcome m p.own).answer,
    ⟨(outcome m p.own).own, p.updates ++ (outcome m p.own).said, p.trace.append more⟩)
  said : ∀ state, ∀ u ∈ (outcome m state).said, u.id = i

/-- A computation that gives a value of the field's state and leaves all alone but the record, to
which it adds. -/
def Reads {α : Type} (m : RefreshM α) (value : FieldState → α) : Prop :=
  ∀ p : Progress, ∃ more, m.run p = (value p.own, { p with trace := p.trace.append more })

section Parts

variable {α β : Type} {i : String} {m m' : RefreshM α} {k : α → RefreshM β}

/-! ## Reading -/

theorem reads_pure (a : α) : Reads (pure a) fun _ => a :=
  fun p => ⟨{}, by rw [Template.Trace.append_empty]; rfl⟩

theorem reads_own : Reads own fun state => state :=
  fun p => ⟨{}, by rw [Template.Trace.append_empty]; rfl⟩

theorem reads_consult {m : Template.ResolveM α} (recording : Template.Recording m) :
    Reads (consult m) fun _ => Template.answer m := by
  intro p
  refine ⟨(m.run {}).2, ?_⟩
  show ((m.run p.trace).1, { p with trace := (m.run p.trace).2 }) = _
  rw [recording p.trace]
  rfl

theorem Reads.bind {read : FieldState → α} {value : α → FieldState → β}
    {total : FieldState → β} (first : Reads m read) (later : ∀ a, Reads (k a) (value a))
    (whole : ∀ state, total state = value (read state) state) : Reads (m >>= k) total := by
  intro p
  rcases first p with ⟨between, ran⟩
  rcases later (read p.own) { p with trace := p.trace.append between } with ⟨more, run⟩
  refine ⟨between.append more, ?_⟩
  show (k (m.run p).1).run (m.run p).2 = _
  rw [ran, run, whole, Template.Trace.append_assoc]

theorem Reads.ite {value value' : FieldState → α} (c : Prop) [Decidable c]
    (first : Reads m value) (second : Reads m' value') :
    Reads (if c then m else m') fun state => if c then value state else value' state := by
  by_cases h : c
  · simpa only [if_pos h] using first
  · simpa only [if_neg h] using second

theorem Reads.outcome {value : FieldState → α} (h : Reads m value) (state : FieldState) :
    outcome m state = ⟨value state, state, []⟩ := by
  rcases h ⟨state, [], {}⟩ with ⟨more, ran⟩
  unfold Form.outcome
  rw [ran]

theorem Reads.about {value : FieldState → α} (h : Reads m value) : About i m where
  run := by
    intro p
    rcases h p with ⟨more, ran⟩
    refine ⟨more, ?_⟩
    rw [h.outcome, ran, List.append_nil]
  said := by
    intro state u member
    rw [h.outcome] at member
    cases member

/-! ## Writing -/

theorem about_tell {u : Update} (h : u.id = i) : About i (tell u) where
  run := fun p => ⟨{}, by rw [Template.Trace.append_empty]; rfl⟩
  said := fun _ _ member => by rw [List.mem_singleton.1 member, h]

theorem about_setOwn (state : FieldState) : About i (setOwn state) where
  run := by
    intro p
    refine ⟨{}, ?_⟩
    show ((), (⟨state, p.updates, p.trace⟩ : Progress)) =
      ((), ⟨state, p.updates ++ [], p.trace.append {}⟩)
    rw [List.append_nil, Template.Trace.append_empty]
  said := fun _ _ member => by cases member

/-- **Putting outcomes together.** The second part starts from the answer and the state that the
first one leaves, and what it says comes after. -/
theorem outcome_bind (m : RefreshM α) (later : ∀ a, About i (k a)) (state : FieldState) :
    outcome (m >>= k) state =
      ⟨(outcome (k (outcome m state).answer) (outcome m state).own).answer,
        (outcome (k (outcome m state).answer) (outcome m state).own).own,
        (outcome m state).said ++
          (outcome (k (outcome m state).answer) (outcome m state).own).said⟩ := by
  rcases (later (m.run ⟨state, [], {}⟩).1).run (m.run ⟨state, [], {}⟩).2 with ⟨more, ran⟩
  have whole : (m >>= k).run ⟨state, [], {}⟩ = _ := ran
  unfold outcome at whole ⊢
  dsimp only at whole ⊢
  rw [whole]

theorem About.bind (first : About i m) (later : ∀ a, About i (k a)) : About i (m >>= k) where
  run := by
    intro p
    rcases first.run p with ⟨between, ran⟩
    rcases (later (outcome m p.own).answer).run ⟨(outcome m p.own).own,
      p.updates ++ (outcome m p.own).said, p.trace.append between⟩ with ⟨more, run⟩
    refine ⟨between.append more, ?_⟩
    show (k (m.run p).1).run (m.run p).2 = _
    rw [ran, run, outcome_bind m later, List.append_assoc, Template.Trace.append_assoc]
  said := by
    intro state u member
    rw [outcome_bind m later] at member
    rcases List.mem_append.1 member with early | late
    · exact first.said state u early
    · exact (later _).said _ u late

/-- A part that only reads hands its value on. -/
theorem Reads.outcome_bind {value : FieldState → α} (first : Reads m value)
    (later : ∀ a, About i (k a)) (state : FieldState) :
    Form.outcome (m >>= k) state = Form.outcome (k (value state)) state := by
  rw [Form.outcome_bind m later, first.outcome]
  rfl

theorem About.ite (c : Prop) [Decidable c] (first : About i m) (second : About i m') :
    About i (if c then m else m') := by
  by_cases h : c
  · simpa only [if_pos h] using first
  · simpa only [if_neg h] using second

end Parts

namespace Surroundings

variable {s : Surroundings} {f : Field} {change : Change}

/-! ## What is read -/

/-- The value of a property text in a state of the field. -/
def valueOf (s : Surroundings) (f : Field) (name : PropertyName) (raw : String)
    (state : FieldState) : Json :=
  Template.valueOfText s.env.now s.env.store (s.context f name state) raw

/-- The value of a property in a state of the field. -/
def valueOfProperty {α : Type} (s : Surroundings) (f : Field) (name : PropertyName)
    (toJson : α → Json) (property : Property α) (state : FieldState) : Json :=
  match property with
  | .fixed value => toJson value
  | .expression source => s.valueOf f name source state

/-- The value of the content in a state of the field. -/
def contentOf (s : Surroundings) (f : Field) (state : FieldState) : Json :=
  match f.content with
  | none => .string ""
  | some (.expression source) =>
    if f.verbatim then .string source else s.valueOf f .value source state
  | some (.fixed text) => .string text

/-- The value that a change proposes in a state of the field, if it proposes one. -/
def proposed (s : Surroundings) (f : Field) (change : Change) (state : FieldState) :
    Option Json :=
  match change with
  | .user raw => if raw.isEmpty then some (s.contentOf f state) else some (.string raw)
  | .initial => some (s.contentOf f state)
  | .others .. =>
    if s.needs f .value change || hasStaleOption f state then some (s.contentOf f state)
    else none

/-- The field is hidden in a state. -/
def hides (s : Surroundings) (f : Field) (state : FieldState) : Bool :=
  match f.hide with
  | none => false
  | some raw => (s.valueOf f .hide raw state).truthy

theorem reads_evaluateText (name : PropertyName) (raw : String) :
    Reads (s.evaluateText f name raw) (s.valueOf f name raw) :=
  reads_own.bind (fun _ => reads_consult (Template.recording_evaluateText _ _ _ _))
    fun _ => rfl

theorem reads_evaluate {α : Type} (name : PropertyName) (toJson : α → Json)
    (property : Property α) :
    Reads (s.evaluate f name toJson property) (s.valueOfProperty f name toJson property) := by
  cases property with
  | fixed value =>
    exact reads_own.bind (fun _ => reads_consult (Template.recording_evaluate _ _ _ _ _))
      fun _ => rfl
  | expression source => exact reads_evaluateText name source

theorem reads_contentValue : Reads (s.contentValue f) (s.contentOf f) := by
  unfold contentValue contentOf
  cases f.content with
  | none => exact reads_pure _
  | some content =>
    cases content with
    | fixed text => exact reads_pure _
    | expression source =>
      cases f.verbatim with
      | true => exact reads_pure _
      | false => exact reads_evaluateText .value source

theorem reads_proposal : Reads (s.proposal f change) (s.proposed f change) := by
  have content : Reads (do return some (← s.contentValue f)) fun state => some (s.contentOf f state)
    := reads_contentValue.bind (fun _ => reads_pure _) fun _ => rfl
  cases change with
  | initial => exact content
  | user raw => exact content.ite _ (reads_pure _)
  | others changed trigger =>
    exact reads_own.bind (fun _ => content.ite _ (reads_pure _)) fun _ => rfl

theorem reads_isHidden : Reads (s.isHidden f) (s.hides f) := by
  unfold isHidden hides
  cases f.hide with
  | none => exact reads_pure _
  | some raw => exact (reads_evaluateText .hide raw).bind (fun _ => reads_pure _) fun _ => rfl

/-! ## What is written -/

theorem about_refreshOptions : About f.id (s.refreshOptions f change) := by
  unfold refreshOptions
  split
  · split
    · exact (reads_evaluateText .options _).about.bind fun _ => reads_own.about.bind fun _ =>
        (about_setOwn _).bind fun _ => about_tell rfl
    · exact (reads_pure ()).about
  · exact (reads_pure ()).about

theorem about_refreshLimit (name : PropertyName) (limit : Option (Property Binary64))
    (set : Binary64 → Limits → Limits) : About f.id (s.refreshLimit f change name limit set) := by
  unfold refreshLimit
  cases limit with
  | none => exact (reads_pure ()).about
  | some limit =>
    dsimp only
    split
    · refine (reads_evaluate name Json.float limit).about.bind fun number => ?_
      exact (reads_own.about.bind fun _ => about_setOwn _).ite _ (reads_pure ()).about
    · exact (reads_pure ()).about

theorem about_refreshLimits : About f.id (s.refreshLimits f change) := by
  unfold refreshLimits
  split
  · exact (about_refreshLimit _ _ _).bind fun _ => (about_refreshLimit _ _ _).bind fun _ =>
      about_refreshLimit _ _ _
  · exact (reads_pure ()).about

theorem about_store (value : String) : About f.id (store f change value) := by
  unfold store
  refine reads_own.about.bind fun state => About.ite _ ?_ ?_
  · have valued (v : String) : About f.id (tell (.value f.id v)) := about_tell rfl
    have listed (values : List String) : About f.id (tell (.options f.id values)) := about_tell rfl
    exact (about_setOwn _).bind fun _ =>
      ((listed _).bind fun _ => valued _).ite _ (valued _)
  · exact (about_setOwn _).bind fun _ => about_tell rfl

theorem about_refreshValue : About f.id (s.refreshValue f change) := by
  unfold refreshValue
  refine reads_proposal.about.bind fun proposal => ?_
  cases proposal with
  | none => exact (reads_pure ()).about
  | some candidate =>
    refine reads_own.about.bind fun state => ?_
    cases coerce f.kind state.limits candidate with
    | ok value => exact about_store value
    | error e => exact (reads_consult (Template.recording_raise _)).about

theorem about_refreshPlaceholder : About f.id (s.refreshPlaceholder f change) := by
  unfold refreshPlaceholder
  split
  · exact (reads_pure ()).about
  · split
    · have shown (text : String) : About f.id (tell (.placeholder f.id text)) := about_tell rfl
      exact (reads_evaluateText .placeholder _).about.bind fun _ => (shown _).bind fun _ =>
        reads_own.about.bind fun _ => about_setOwn _
    · exact (reads_pure ()).about

theorem about_refreshDescription : About f.id (s.refreshDescription f change) := by
  unfold refreshDescription
  split
  · exact (reads_pure ()).about
  · split
    · have shown (text : String) : About f.id (tell (.description f.id text)) := about_tell rfl
      exact (reads_evaluateText .description _).about.bind fun _ => (shown _).bind fun _ =>
        reads_own.about.bind fun _ => about_setOwn _
    · exact (reads_pure ()).about

theorem about_refreshVisibility : About f.id (s.refreshVisibility f change) := by
  unfold refreshVisibility
  refine About.ite _ ?_ (reads_pure ()).about
  exact reads_isHidden.about.bind fun _ => reads_own.about.bind fun _ =>
    (about_setOwn _).bind fun _ => about_tell rfl

/-- **Computing a field comes to the same, whatever was said before and is on record.** -/
theorem about_refresh : About f.id (s.refresh f change) :=
  about_refreshOptions.bind fun _ => about_refreshLimits.bind fun _ =>
    about_refreshValue.bind fun _ => about_refreshPlaceholder.bind fun _ =>
      about_refreshDescription.bind fun _ => about_refreshVisibility

/-! ## Other fields -/

section Congruence

variable {env : Environment} {graph : Graph} {values values' : String → Option String}

/-- The values agree on what the properties of a field refer to, but for the field itself. -/
def AgreeAround (graph : Graph) (id : String) (values values' : String → Option String) : Prop :=
  ∀ name, ∀ i ∈ graph.context id name, i ≠ id → values i = values' i

theorem context_congr (agree : AgreeAround graph f.id values values') (name : PropertyName) :
    context ⟨env, graph, values⟩ f name = context ⟨env, graph, values'⟩ f name := by
  funext state id
  unfold context
  split
  · rename_i referred
    split
    · rfl
    · rename_i differs
      exact agree name id (List.contains_iff_mem.1 referred) differs
  · rfl

/-- **Of the other fields a computation reads only those that some property refers to.** -/
theorem refresh_congr (agree : AgreeAround graph f.id values values') :
    refresh ⟨env, graph, values⟩ f change = refresh ⟨env, graph, values'⟩ f change := by
  have texts : evaluateText ⟨env, graph, values⟩ f = evaluateText ⟨env, graph, values'⟩ f := by
    funext name raw
    unfold evaluateText
    rw [context_congr agree]
  have limits : evaluate ⟨env, graph, values⟩ f (α := Binary64) =
      evaluate ⟨env, graph, values'⟩ f := by
    funext name toJson property
    unfold evaluate
    rw [context_congr agree]
  unfold refresh refreshOptions refreshLimits refreshLimit refreshValue proposal contentValue
    refreshPlaceholder refreshDescription refreshVisibility isHidden
  rw [texts, limits]
  rfl

/-- A computation asks of the changed fields only which they are. -/
theorem refresh_others_congr {changed changed' : List String} (trigger : String)
    (same : ∀ id, changed.contains id = changed'.contains id) :
    s.refresh f (.others changed trigger) = s.refresh f (.others changed' trigger) := by
  have needed (name : PropertyName) :
      s.needs f name (.others changed trigger) = s.needs f name (.others changed' trigger) := by
    simp only [needs, same]
  have source : s.optionSource f (.others changed trigger) =
      s.optionSource f (.others changed' trigger) := by
    simp only [optionSource, same]
  unfold refresh refreshOptions refreshLimits refreshLimit refreshValue proposal
    refreshPlaceholder refreshDescription refreshVisibility
  simp only [needed, source]
  rfl

end Congruence

end Surroundings

end Formulary.Form
