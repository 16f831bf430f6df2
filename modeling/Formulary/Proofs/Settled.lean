import Formulary.Proofs.Acceptance
import Formulary.Proofs.Agreement
import Formulary.Proofs.Quoted

/-!
# Settled forms agree with their expressions

A property of a field that does not read the field itself is tracked by every wave, so at any
moment it is shown or some waiting wave is owed to it (`Agreement`, `Run`). When nothing waits,
everything is shown: `settled_agrees`.
-/

namespace Formulary.Form.Session

variable {s : Session} {form : Definition} {g : Graph} {f : Field} {store : DocumentStore}

/-! ## From the opening to a run -/

theorem fits_start {debounce : Nat} (opened : start form debounce = .ok s) :
    s.Fits form s.graph := by
  obtain ⟨ofForm, -, states, schedule⟩ := start_ok opened
  refine ⟨ofForm, rfl, ?_, fun t member => ?_⟩
  · rw [states, List.map_map]
    rfl
  · rw [schedule] at member
    exact absurd member List.not_mem_nil

/-- The fields in the order of the graph come each after all that it depends on. -/
theorem mem_order_fields (h : g.Represents form) (member : f ∈ form.fields) :
    f ∈ g.order.filterMap form.field? :=
  List.mem_filterMap.2 ⟨f.id, h.complete.symm.subset (List.mem_map_of_mem member),
    Definition.field?_of_mem h.unique member⟩

theorem foldl_computeField_preserves {Q : Session → Prop} {env : Environment}
    {fields : List Field} (step : ∀ t, ∀ f ∈ fields, Q t → Q (t.computeField env f))
    (holds : Q s) : Q (fields.foldl (Session.computeField env) s) := by
  induction fields generalizing s with
  | nil => exact holds
  | cons f fields ih =>
    refine ih (fun t f' inside => step t f' (List.mem_cons_of_mem _ inside)) ?_
    exact step s f List.mem_cons_self holds

/-- What the first computation of every field preserves, that of all fields preserves. -/
theorem computeAll_preserves {Q : Session → Prop} (ofForm : s.form = form) (env : Environment)
    (step : ∀ t, ∀ f ∈ form.fields, Q t → Q (t.computeField env f)) (holds : Q s) :
    Q (s.computeAll env) := by
  refine foldl_computeField_preserves (fun t f inside => ?_) holds
  obtain ⟨id, -, found⟩ := List.mem_filterMap.1 inside
  rw [ofForm] at found
  exact step t f (Definition.mem_of_field? found).1

theorem Fits.computeAll (fits : s.Fits form g) (env : Environment) :
    (s.computeAll env).Fits form g :=
  computeAll_preserves (Q := fun t => t.Fits form g) fits.ofForm env
    (fun _ _ _ fits => fits.computeField) fits

/-- Computing fields for the first time starts no waves. -/
theorem waiting_computeAll (env : Environment) : (s.computeAll env).waiting = s.waiting :=
  computeAll_preserves (Q := fun t => t.waiting = s.waiting) rfl env (fun _ _ _ same => same) rfl

/-- Nothing waits once all fields have been computed for the first time. -/
theorem isIdle_computeAll {debounce : Nat} (opened : start form debounce = .ok s)
    (env : Environment) : (s.computeAll env).schedule.isIdle = true := by
  have none : (s.computeAll env).waiting = [] := by
    rw [waiting_computeAll, waiting, (start_ok opened).2.2.2]
    rfl
  rw [Schedule.isIdle, List.map_eq_nil_iff.1 none]
  rfl

/-- **What the first computation of a field brings about holds after that of all fields**, if
computing fields that the field does not depend on leaves it alone. `B` is what is known of the
field before it is computed. -/
theorem computeAll_brings {B Q : Session → Prop} (h : g.Represents form) (fits : s.Fits form g)
    (env : Environment) (member : f ∈ form.fields)
    (earlier : ∀ t f', t.Fits form g → f'.id ≠ f.id → B t → B (t.computeField env f'))
    (self : ∀ t, t.Fits form g → B t → Q (t.computeField env f))
    (later : ∀ t f', t.Fits form g → f'.id ≠ f.id → ¬ form.Edge f'.id f.id → Q t →
      Q (t.computeField env f'))
    (first : B s) : Q (s.computeAll env) := by
  have ordered : (g.order.filterMap form.field?).Pairwise fun f f' =>
      f.id ≠ f'.id ∧ ¬ form.Edge f'.id f.id := by
    have apart := h.order_nodup.and h.ordered
    refine List.Pairwise.filterMap _ (fun id id' related f' found f'' found' => ?_) apart
    rw [(Definition.mem_of_field? found).2, (Definition.mem_of_field? found').2]
    exact related
  have inside := mem_order_fields h member
  unfold computeAll
  rw [fits.ofGraph, fits.ofForm]
  generalize g.order.filterMap form.field? = fields at ordered inside
  obtain ⟨before, after, rfl⟩ := List.append_of_mem inside
  rw [List.pairwise_append, List.pairwise_cons] at ordered
  obtain ⟨-, ⟨behind, -⟩, ahead⟩ := ordered
  have arrived : (before.foldl (computeField env) s).Fits form g ∧
      B (before.foldl (computeField env) s) := by
    refine foldl_computeField_preserves (Q := fun t => t.Fits form g ∧ B t) ?_ ⟨fits, first⟩
    rintro t f' early ⟨fits', known⟩
    exact ⟨fits'.computeField, earlier t f' fits' (ahead f' early f List.mem_cons_self).1 known⟩
  obtain ⟨fits', known⟩ := arrived
  have computed := self _ fits' known
  rw [List.foldl_append, List.foldl_cons]
  refine (foldl_computeField_preserves (Q := fun t => t.Fits form g ∧ Q t) ?_
    ⟨fits'.computeField, computed⟩).2
  rintro t f' late ⟨fits'', holds⟩
  obtain ⟨differs, apart⟩ := behind f' late
  exact ⟨fits''.computeField, later t f' fits'' (Ne.symm differs) apart holds⟩

/-- After the first computation of all fields every steady property is shown. -/
theorem shows_computeAll (h : g.Represents form) (fits : s.Fits form g)
    (first now : Calendar.Instant) (member : f ∈ form.fields) {name : PropertyName}
    (steady : f.Steady store name) :
    (s.computeAll ⟨store, first⟩).Shows store now f name := by
  refine computeAll_brings (B := fun _ => True) (Q := fun t => t.Shows store now f name) h fits
    ⟨store, first⟩ member (fun _ _ _ _ _ => trivial) (fun t fits _ => ?_)
    (fun t f' fits differs apart shown => ?_) trivial
  · exact (fits.shows_of_needs h member steady rfl).computeField
  · refine (shown.refresh_other fits h member differs fun referred => apart ?_).computeField
    exact h.edge_of_mem_context referred differs

/-- **A steady property is shown again when nothing waits**, after any run; of the value this is
said when the user does not edit the field. -/
theorem Shows.run (fits : s.Fits form g) (h : g.Represents form) (member : f ∈ form.fields)
    {name : PropertyName} {now : Calendar.Instant} (steady : f.Steady store name)
    (shown : s.Shows store now f name) {steps : List (Calendar.Instant × Action)}
    (own : name = .value → ∀ step ∈ steps, ∀ raw, step.2 ≠ .edit f.id raw)
    (idle : (s.run store steps).schedule.isIdle = true) :
    (s.run store steps).Shows store now f name := by
  have tracks : Tracks form g store f (g.context f.id name) fun u => u.Shows store now f name :=
    tracks_shows h member steady
  have known := Definition.field?_of_mem h.unique member
  refine (tracks.run known h fits ?_ (Or.inl shown)).resolve_right (not_owes_of_isIdle idle)
  intro step inside raw edits u fits shown
  refine shown.refresh_self fits h member steady rfl fun _ isValue => ?_
  exact own isValue step inside raw edits

/-- What a field's state is when the field shows its properties. -/
theorem Fits.agrees_of_shows (fits : s.Fits form g) (member : f ∈ form.fields)
    {now : Calendar.Instant} {unedited : Prop}
    (shown : ∀ name, (name = .value → unedited) → s.Shows store now f name) :
    ∃ state, s.state? f.id = some state ∧
      (∀ raw, f.placeholder = some raw →
        state.placeholder = plainText (s.reads store now raw)) ∧
      (∀ raw, f.description = some raw →
        state.description = plainText (s.reads store now raw)) ∧
      state.hidden = f.hiddenBy (s.reads store now) ∧
      state.required = (f.required && !state.hidden) ∧
      (∀ name limit, f.limit? name = some limit →
        (propertyBy (s.reads store now) Json.float limit).toNumber.isFinite = true →
          state.limits.of? name = some (propertyBy (s.reads store now) Json.float limit).toNumber) ∧
      (f.kind.takesAny = true → unedited →
        coerce f.kind state.limits (f.contentBy (s.reads store now)) = .ok state.value) := by
  obtain ⟨state, found⟩ := fits.state? (List.mem_map_of_mem member)
  have agrees (name : PropertyName) (own : name = .value → unedited) :
      f.Agrees name (s.reads store now) state := by
    obtain ⟨state', found', agrees⟩ := shown name own
    cases found.symm.trans found'
    exact agrees
  have hide := agrees .hide (by rintro ⟨⟩)
  refine ⟨state, found, agrees .placeholder (by rintro ⟨⟩), agrees .description (by rintro ⟨⟩),
    hide.1, hide.2, fun name limit given => ?limit,
    fun free unedited => ?_⟩
  case limit =>
    rcases Field.name_of_limit? given with rfl | rfl | rfl
    · exact agrees .least (by rintro ⟨⟩) limit given
    · exact agrees .greatest (by rintro ⟨⟩) limit given
    · exact agrees .step (by rintro ⟨⟩) limit given
  · obtain ⟨value, taken⟩ := coerce_of_takesAny free (f.contentBy (s.reads store now))
    have simple := Kind.isSimple_of_takesAny free
    rw [agrees .value (fun _ => unedited) simple value (taken _)]
    exact taken _

/-- **Settled forms agree with their expressions.** -/
theorem settled_agrees {debounce : Nat} (opened : start form debounce = .ok s)
    (foreign : ∀ f ∈ form.fields, ¬ f.Mentions f.id)
    (free : ∀ f ∈ form.fields, ∀ p ∈ f.sources, Template.ClockFree store p.2)
    (first : Calendar.Instant) (steps : List (Calendar.Instant × Action)) (t : Session)
    (ran : t = (s.computeAll ⟨store, first⟩).run store steps)
    (idle : t.schedule.isIdle = true) (now : Calendar.Instant) (member : f ∈ form.fields) :
    ∃ state, t.state? f.id = some state ∧
      (∀ raw, f.placeholder = some raw →
        state.placeholder = plainText (t.reads store now raw)) ∧
      (∀ raw, f.description = some raw →
        state.description = plainText (t.reads store now raw)) ∧
      state.hidden = f.hiddenBy (t.reads store now) ∧
      state.required = (f.required && !state.hidden) ∧
      (∀ name limit, f.limit? name = some limit →
        (propertyBy (t.reads store now) Json.float limit).toNumber.isFinite = true →
          state.limits.of? name = some (propertyBy (t.reads store now) Json.float limit).toNumber) ∧
      (f.kind.takesAny = true → (∀ step ∈ steps, ∀ raw, step.2 ≠ .edit f.id raw) →
        coerce f.kind state.limits (f.contentBy (t.reads store now)) = .ok state.value) := by
  subst ran
  have h := Graph.represents_of_ok (start_ok opened).2.1
  have fits := (fits_start opened).computeAll ⟨store, first⟩
  refine (fits.run store steps).agrees_of_shows member fun name unedited => ?_
  have steady : f.Steady store name := by
    intro raw given
    have source : (name, raw) ∈ f.sources := Field.mem_sources.2 given
    exact ⟨fun mentioned => foreign f member ⟨(name, raw), source, mentioned⟩,
      free f member (name, raw) source⟩
  have initially := shows_computeAll h (fits_start opened) first now member steady
  exact Shows.run fits h member steady initially unedited idle

/-- A text that is nothing but a reference reads as the value of the field. -/
theorem reads_reference {raw value : String} {name : List Char} {now : Calendar.Instant}
    (refers : Template.RefersTo raw name)
    (filled : (Template.Parts.ofText raw.toList).isLiteral = false)
    (bare : (Template.Parts.ofText raw.toList).hasAffixes = false)
    (given : s.value? (String.ofList name) = some value) :
    s.reads store now raw = .string value := by
  rw [reads, Template.valueOfText_reference refers now filled bare, Template.fieldValue, given]
  exact congrArg Json.string (String.ofList_toList)

/-! ## An example -/

theorem start_trip : ∃ s, start trip defaultDebounce = .ok s :=
  exists_ok_of_isSome (by decide +kernel)

theorem refersTo_city : Template.RefersTo "{{$$.city}}" "city".toList where
  whole := by decide +kernel
  alone := by decide +kernel

/-- The fields of the form refer to the city, and to nothing else. -/
theorem mem_sources_trip (member : f ∈ trip.fields) {p : PropertyName × String}
    (source : p ∈ f.sources) : p.2 = "{{$$.city}}" ∧ f.id ≠ "city" := by
  have each : ∀ f ∈ trip.fields, ∀ p ∈ f.sources, p.2 = "{{$$.city}}" ∧ f.id ≠ "city" := by
    decide
  exact each f member p source

theorem mentions_city {id : String} :
    Template.Mentions "{{$$.city}}".toList id.toList ↔ id = "city" := by
  have read : Template.referencedFields "{{$$.city}}".toList = ["city"] := by
    decide +kernel
  rw [← Template.mem_referencedFields, read, List.mem_singleton]

theorem settled_agrees_trip : ∃ s, start trip defaultDebounce = .ok s ∧
    ∀ (store : DocumentStore) (first edited settled now : Calendar.Instant) (t : Session),
      t = (s.computeAll ⟨store, first⟩).run store
        [(edited, .edit "city" "Rome"), (settled, .settle)] →
      t.schedule.isIdle = true ∧ ∃ state, t.state? "note" = some state ∧
        coerce .textarea state.limits (t.reads store now "{{$$.city}}") = .ok state.value := by
  obtain ⟨s, started⟩ := start_trip
  refine ⟨s, started, ?_⟩
  intro store first edited settled now t ran
  have foreign : ∀ f ∈ trip.fields, ¬ f.Mentions f.id := by
    intro f member mentions
    obtain ⟨p, source, mentioned⟩ := mentions
    obtain ⟨text, differs⟩ := mem_sources_trip member source
    rw [text] at mentioned
    exact differs (mentions_city.1 mentioned)
  have free : ∀ f ∈ trip.fields, ∀ p ∈ f.sources, Template.ClockFree store p.2 := by
    intro f member p source
    rw [(mem_sources_trip member source).1]
    exact refersTo_city.clockFree
  have idle : t.schedule.isIdle = true := by
    have fits : ((s.computeAll ⟨store, first⟩).act ⟨store, edited⟩ (.edit "city" "Rome")).Fits
        trip s.graph :=
      ((fits_start started).computeAll ⟨store, first⟩).act _
    rw [ran]
    exact fits.isIdle_settle ⟨store, settled⟩
  obtain ⟨state, found, -, -, -, -, -, value⟩ := settled_agrees started foreign free first
    [(edited, .edit "city" "Rome"), (settled, .settle)] t ran idle now note_mem
  refine ⟨idle, state, found, value rfl ?_⟩
  simp [note]

end Formulary.Form.Session
