import Formulary.Proofs.Present
import Formulary.Proofs.Run

/-!
# Fields that agree with their expressions

`Field.Agrees` says that a field's state agrees with one of its properties, when the texts have
the values that `read` gives them. A session `Shows` a property when the field agrees with it on the
current values of all fields.

* `tracks_shows`: a property that does not read its own field is tracked on what it refers to.
-/

namespace Formulary.Form

open Template (Property)

/-! ## Texts of properties -/

/-- The text of a property, if it may refer to fields. -/
def Field.text? (f : Field) (name : PropertyName) : Option String :=
  match name with
  | .options => match f.kind with
    | .dropdown options => options.bind Property.source?
    | _ => none
  | .value => if f.verbatim then none else f.content.bind Property.source?
  | .placeholder => f.placeholder
  | .description => f.description
  | .hide => f.hide
  | name => (f.limit? name).bind Property.source?

theorem Field.mem_sources {f : Field} {name : PropertyName} {raw : String} :
    (name, raw) ∈ f.sources ↔ f.text? name = some raw := by
  obtain ⟨_, _, kind, _, _, _, _, _, _, verbatim⟩ := f
  unfold Field.sources Field.text? Field.limit?
  cases name <;> cases kind <;> cases verbatim <;> simp [Field.sourceOf]

theorem lookup_eq_of_mem_iff {α : Type} {entries : List (PropertyName × α)}
    {name : PropertyName} {found? : Option α}
    (h : ∀ a, (name, a) ∈ entries ↔ found? = some a) : entries.lookup name = found? := by
  cases found : entries.lookup name with
  | none =>
    cases found? with
    | none => rfl
    | some a =>
      have other := List.lookup_eq_none_iff.1 found _ ((h a).2 rfl)
      simp at other
  | some a =>
    obtain ⟨before, after, shape, -⟩ := List.lookup_eq_some_iff.1 found
    exact ((h a).1 (by rw [shape]; simp)).symm

/-- The fields of the form that a property refers to, in the order in which its text does. -/
def Definition.referred (form : Definition) (name : PropertyName) (f : Field) : List String :=
  ((f.text? name).map fun raw =>
    (Template.referencedFields raw.toList).filter (form.ids.contains ·)).getD []

/-- The fields that a property refers to in the graph are those that its text does. -/
theorem Graph.Represents.context_eq {g : Graph} {form : Definition} (h : g.Represents form)
    {f : Field} (member : f ∈ form.fields) (name : PropertyName) :
    g.context f.id name = form.referred name f := by
  have contexts : (Node.ofField form.ids f).contexts.lookup name = (f.text? name).map fun raw =>
      (Template.referencedFields raw.toList).filter (form.ids.contains ·) := by
    refine lookup_eq_of_mem_iff fun ids => ?_
    rw [Option.map_eq_some_iff]
    constructor
    · intro entry
      obtain ⟨⟨name', raw⟩, source, same⟩ := List.mem_map.1 entry
      cases same
      exact ⟨raw, Field.mem_sources.1 source, rfl⟩
    · intro facts
      obtain ⟨raw, text, rfl⟩ := facts
      exact List.mem_map.2 ⟨(name, raw), Field.mem_sources.2 text, rfl⟩
  rw [context, h.node?_of_mem member, Option.bind_some, contexts]
  rfl

theorem Graph.Represents.mem_context {g : Graph} {form : Definition} (h : g.Represents form)
    {f : Field} (member : f ∈ form.fields) {name : PropertyName} {x : String} :
    x ∈ g.context f.id name ↔
      ∃ raw, f.text? name = some raw ∧ x ∈ form.ids ∧ Template.Mentions raw.toList x.toList := by
  rw [h.context_eq member, Definition.referred]
  cases f.text? name with
  | none => simp
  | some raw => simp [Template.mem_referencedFields, and_comm]

/-! ## Agreement -/

/-- Kinds that take every value, whatever the limits. -/
def Kind.takesAny : Kind → Bool
  | .text | .number | .toggle | .textarea => true
  | _ => false

theorem coerce_of_takesAny {kind : Kind} (free : kind.takesAny = true) (v : Json) :
    ∃ value, ∀ limits, coerce kind limits v = .ok value := by
  unfold coerce
  cases isEmptyValue v with
  | true => exact ⟨"", fun _ => rfl⟩
  | false =>
    cases kind with
    | toggle => exact ⟨coerceToggle v, fun _ => rfl⟩
    | text | number | textarea => exact ⟨plainText v, fun _ => rfl⟩
    | _ => cases free

/-- Kinds with neither limits nor options. -/
def Kind.isSimple : Kind → Bool
  | .range .. | .dropdown _ => false
  | _ => true

theorem Kind.isSimple_of_takesAny {kind : Kind} (free : kind.takesAny = true) :
    kind.isSimple = true := by
  cases kind <;> first | rfl | cases free

theorem Kind.isDropdown_of_isSimple {kind : Kind} (simple : kind.isSimple = true) :
    kind.isDropdown = false := by
  cases kind <;> first | rfl | cases simple

theorem coerce_of_isSimple {kind : Kind} (simple : kind.isSimple = true) (v : Json)
    (limits limits' : Limits) : coerce kind limits v = coerce kind limits' v := by
  unfold coerce
  cases kind with
  | range least greatest step => cases simple
  | _ => rfl

/-- The value of a property when texts read as `read` says. -/
def propertyBy {α : Type} (read : String → Json) (toJson : α → Json) : Property α → Json
  | .fixed value => toJson value
  | .expression source => read source

/-- The value of the content when texts read as `read` says. -/
def Field.contentBy (f : Field) (read : String → Json) : Json :=
  match f.content with
  | none => .string ""
  | some (.expression source) => if f.verbatim then .string source else read source
  | some (.fixed text) => .string text

/-- The field is hidden when texts read as `read` says. -/
def Field.hiddenBy (f : Field) (read : String → Json) : Bool :=
  match f.hide with
  | none => false
  | some raw => (read raw).truthy

/-- The state agrees with a property of the field when texts read as `read` says. -/
def Field.Agrees (f : Field) (name : PropertyName) (read : String → Json) (state : FieldState) :
    Prop :=
  match name with
  | .options => True
  | .value => f.kind.isSimple = true → ∀ value,
    coerce f.kind state.limits (f.contentBy read) = .ok value → state.value = value
  | .placeholder => ∀ raw, f.placeholder = some raw → state.placeholder = plainText (read raw)
  | .description => ∀ raw, f.description = some raw → state.description = plainText (read raw)
  | .hide => state.hidden = f.hiddenBy read ∧ state.required = (f.required && !state.hidden)
  | name => ∀ limit, f.limit? name = some limit →
    (propertyBy read Json.float limit).toNumber.isFinite = true →
      state.limits.of? name = some (propertyBy read Json.float limit).toNumber

section Agrees

variable {f : Field} {name : PropertyName} {read read' : String → Json} {state : FieldState}

theorem Field.text?_of_limit? {source : String}
    (given : f.limit? name = some (.expression source)) : f.text? name = some source := by
  obtain ⟨_, _, kind, _, _, _, _, _, _, _⟩ := f
  unfold Field.limit? at given
  unfold Field.text? Field.limit?
  cases name <;> cases kind <;> cases given <;> rfl

theorem Field.contentBy_congr (f : Field)
    (same : ∀ raw, f.text? .value = some raw → read raw = read' raw) :
    f.contentBy read = f.contentBy read' := by
  unfold text? at same
  unfold contentBy
  cases given : f.content with
  | none => rfl
  | some content =>
    cases content with
    | fixed text => rfl
    | expression source =>
      cases verbatim : f.verbatim with
      | true => rfl
      | false =>
        refine same source ?_
        rw [verbatim, given]
        rfl

theorem Field.hiddenBy_congr (f : Field)
    (same : ∀ raw, f.text? .hide = some raw → read raw = read' raw) :
    f.hiddenBy read = f.hiddenBy read' := by
  unfold hiddenBy
  cases hide : f.hide with
  | none => rfl
  | some raw => exact congrArg Json.truthy (same raw hide)

/-- Agreement with a property depends only on the value of its text. -/
theorem Field.Agrees.congr (h : f.Agrees name read state)
    (same : ∀ raw, f.text? name = some raw → read raw = read' raw) :
    f.Agrees name read' state := by
  have limits (limit : Property Binary64) (given : f.limit? name = some limit) :
      propertyBy read Json.float limit = propertyBy read' Json.float limit := by
    cases limit with
    | fixed value => rfl
    | expression source => exact same source (Field.text?_of_limit? given)
  cases name with
  | options => trivial
  | value =>
    intro simple
    rw [← f.contentBy_congr same]
    exact h simple
  | placeholder =>
    intro raw given
    rw [← same raw given]
    exact h raw given
  | description =>
    intro raw given
    rw [← same raw given]
    exact h raw given
  | hide => exact ⟨h.1.trans (f.hiddenBy_congr same), h.2⟩
  | least | greatest | step =>
    intro limit given
    rw [← limits limit given]
    exact h limit given

end Agrees

/-! ## Computing a field -/

namespace Surroundings

variable {s : Surroundings} {f : Field} {change : Change} {name : PropertyName}
  {read : String → Json} {old new : FieldState}

/-- The surroundings give the text of a property the value that `read` gives it, in every state of
the field. -/
def ReadsAs (s : Surroundings) (f : Field) (name : PropertyName) (read : String → Json) : Prop :=
  ∀ raw, f.text? name = some raw → ∀ state, s.valueOf f name raw state = read raw

theorem ReadsAs.contentOf (reads : s.ReadsAs f .value read) (state : FieldState) :
    s.contentOf f state = f.contentBy read :=
  f.contentBy_congr fun raw given => reads raw given state

theorem ReadsAs.hides (reads : s.ReadsAs f .hide read) (state : FieldState) :
    s.hides f state = f.hiddenBy read :=
  f.hiddenBy_congr fun raw given => reads raw given state

theorem ReadsAs.newLimit? (reads : s.ReadsAs f name read) {limit : Property Binary64}
    (given : f.limit? name = some limit) (state : FieldState) :
    s.newLimit? f change name (f.limit? name) state =
      if s.needs f name change = true ∧ (propertyBy read Json.float limit).toNumber.isFinite = true
      then some (propertyBy read Json.float limit).toNumber else none := by
  have value : s.valueOfProperty f name Json.float limit state =
      propertyBy read Json.float limit := by
    cases limit with
    | fixed value => rfl
    | expression source => exact reads source (Field.text?_of_limit? given) state
  rw [given, Surroundings.newLimit?, Option.bind_some, value]
  cases s.needs f name change with
  | false => rfl
  | true =>
    cases finite : (propertyBy read Json.float limit).toNumber.isFinite <;> simp [finite]

theorem ReadsAs.newText (reads : s.ReadsAs f name read) {raw : String}
    (given : f.text? name = some raw) (state : FieldState) (text : String) :
    s.newText f change name (some raw) state text =
      if s.needs f name change then plainText (read raw) else text := by
  rw [← reads raw given state]
  rfl

/-- The field agrees with every property that has been computed. -/
theorem Renews.agrees_of_needs (r : s.Renews f change old new) (reads : s.ReadsAs f name read)
    (needed : s.needs f name change = true) : f.Agrees name read new := by
  cases name with
  | options => trivial
  | value =>
    intro simple value taken
    have proposed : s.proposed f change old = some (f.contentBy read) := by
      rw [← reads.contentOf old]
      cases change with
      | initial => rfl
      | user raw => cases needed
      | others changed trigger => rw [Surroundings.proposed, needed, Bool.true_or, if_pos rfl]
    have stored := r.value (Kind.isDropdown_of_isSimple simple)
    rw [proposed, accepted, taken] at stored
    exact stored
  | placeholder =>
    intro raw given
    rw [r.placeholder, given, reads.newText given, if_pos needed]
  | description =>
    intro raw given
    rw [r.description, given, reads.newText given, if_pos needed]
  | hide =>
    have decided : (change.isEdit || s.needs f .hide change) = true := by rw [needed, Bool.or_true]
    refine ⟨?_, ?_⟩
    · rw [r.hidden, if_pos decided, reads.hides]
    · rw [r.required, if_pos decided]
  | least | greatest | step =>
    intro limit given finite
    rw [r.limits, reads.newLimit? given, if_pos ⟨needed, finite⟩]
    rfl

/-- The field still agrees with a property that a change leaves alone; of a user's edit this is not
said of the value. -/
theorem Renews.agrees_of_not_needs (r : s.Renews f change old new)
    (reads : s.ReadsAs f name read) (unneeded : s.needs f name change = false)
    (own : change.isEdit = true → name ≠ .value) (h : f.Agrees name read old) :
    f.Agrees name read new := by
  cases name with
  | options => trivial
  | value =>
    intro simple value taken
    have plain := Kind.isDropdown_of_isSimple simple
    have proposed : s.proposed f change old = none := by
      cases change with
      | initial => cases unneeded
      | user raw => exact absurd rfl (own rfl)
      | others changed trigger =>
        rw [Surroundings.proposed, unneeded, hasStaleOption, plain]
        rfl
    have stored := r.value plain
    rw [proposed, accepted] at stored
    rw [coerce_of_isSimple simple _ new.limits old.limits] at taken
    rw [stored, h simple value taken]
  | placeholder =>
    intro raw given
    rw [r.placeholder, given, reads.newText given, unneeded, if_neg Bool.false_ne_true]
    exact h raw given
  | description =>
    intro raw given
    rw [r.description, given, reads.newText given, unneeded, if_neg Bool.false_ne_true]
    exact h raw given
  | hide =>
    cases decided : change.isEdit || s.needs f .hide change with
    | true =>
      exact ⟨by rw [r.hidden, if_pos decided, reads.hides], by rw [r.required, if_pos decided]⟩
    | false =>
      have hidden := r.hidden
      have required := r.required
      rw [decided, if_neg Bool.false_ne_true] at hidden required
      rw [Field.Agrees, hidden, required]
      exact h
  | least | greatest | step =>
    intro limit given finite
    rw [r.limits, reads.newLimit? given, unneeded, if_neg fun both => Bool.false_ne_true both.1,
      h limit given finite]
    rfl

end Surroundings

/-! ## Sessions -/

/-- The text of a property does not mention the field itself, and does not ask for the present. -/
def Field.Steady (f : Field) (store : DocumentStore) (name : PropertyName) : Prop :=
  ∀ raw, f.text? name = some raw →
    ¬ Template.Mentions raw.toList f.id.toList ∧ Template.ClockFree store raw

/-- A steady property does not refer to its own field. -/
theorem Field.Steady.foreign {f : Field} {store : DocumentStore} {name : PropertyName}
    (steady : f.Steady store name) {g : Graph} {form : Definition} (h : g.Represents form)
    (member : f ∈ form.fields) : f.id ∉ g.context f.id name := by
  intro referred
  obtain ⟨raw, given, -, mentioned⟩ := (h.mem_context member).1 referred
  exact (steady raw given).1 mentioned

namespace Session

variable {s : Session} {form : Definition} {g : Graph} {env : Environment} {f f' : Field}
  {change : Change} {name : PropertyName} {store : DocumentStore} {now now' : Calendar.Instant}

/-- The value of a text on the current values of the fields. -/
def reads (s : Session) (store : DocumentStore) (now : Calendar.Instant) (raw : String) : Json :=
  Template.valueOfText now store s.value? raw

/-- The field agrees with a property on the current values of the fields. -/
def Shows (s : Session) (store : DocumentStore) (now : Calendar.Instant) (f : Field)
    (name : PropertyName) : Prop :=
  ∃ state, s.state? f.id = some state ∧ f.Agrees name (s.reads store now) state

/-- In a computation a text has its value on the current values, unless it mentions the field that
is computed. -/
theorem Fits.readsAs (fits : s.Fits form g) (h : g.Represents form) (env : Environment)
    (member : f ∈ form.fields)
    (foreign : ∀ raw, f.text? name = some raw → ¬ Template.Mentions raw.toList f.id.toList) :
    (s.surroundings env).ReadsAs f name (s.reads env.store env.now) := by
  intro raw given state
  refine Template.valueOfText_congr env.now env.store fun id mentioned => ?_
  have differs : id ≠ f.id := by
    rintro rfl
    exact foreign raw given mentioned
  have graph : (s.surroundings env).graph = g := fits.ofGraph
  unfold Surroundings.context
  rw [graph, if_neg differs]
  by_cases inside : id ∈ form.ids
  · have referred : id ∈ g.context f.id name :=
      (h.mem_context member).2 ⟨raw, given, inside, mentioned⟩
    rw [if_pos (List.contains_iff_mem.2 referred)]
    rfl
  · have unknown : id ∉ g.context f.id name := fun referred => by
      obtain ⟨-, -, inside', -⟩ := (h.mem_context member).1 referred
      exact inside inside'
    rw [if_neg (fun referred => unknown (List.contains_iff_mem.1 referred)),
      fits.value?_of_not_mem inside]

/-- Computing a field leaves the values of texts that do not mention it. -/
theorem Fits.reads_refresh (fits : s.Fits form g) {raw : String}
    (unread : f'.id ∈ form.ids → ¬ Template.Mentions raw.toList f'.id.toList) :
    (s.refresh env f' change).reads store now raw = s.reads store now raw := by
  refine Template.valueOfText_congr now store fun id mentioned => ?_
  by_cases same : id = f'.id
  · subst same
    have outside : f'.id ∉ form.ids := fun inside => unread inside mentioned
    rw [fits.value?_of_not_mem outside, fits.refresh.value?_of_not_mem outside]
  · exact value?_refresh_of_ne same

/-- Computing another field that a property does not refer to leaves what is shown. -/
theorem Shows.refresh_other (shown : s.Shows store now f name) (fits : s.Fits form g)
    (h : g.Represents form) (member : f ∈ form.fields) (differs : f'.id ≠ f.id)
    (unread : f'.id ∉ g.context f.id name) :
    (s.refresh env f' change).Shows store now f name := by
  obtain ⟨state, found, agrees⟩ := shown
  refine ⟨state, ?_,
    agrees.congr fun raw given => (fits.reads_refresh fun inside mentioned => ?_).symm⟩
  · rw [state?_refresh_of_ne (Ne.symm differs), found]
  · exact unread ((h.mem_context member).2 ⟨raw, given, inside, mentioned⟩)

/-- The state of a field that has been computed. -/
theorem Fits.renews (fits : s.Fits form g) (env : Environment) (change : Change)
    (member : f ∈ form.fields) :
    ∃ old new, s.state? f.id = some old ∧ (s.refresh env f change).state? f.id = some new ∧
      (s.surroundings env).Renews f change old new := by
  obtain ⟨old, found⟩ := fits.state? (List.mem_map_of_mem member)
  exact ⟨old, _, found, state?_refresh_self found, Surroundings.renews_refresh old⟩

/-- The field itself does not change the value of a steady property's text, nor does the present. -/
theorem Fits.reads_refresh_self (fits : s.Fits form g) (steady : f.Steady store name)
    {raw : String} (given : f.text? name = some raw) (now now' : Calendar.Instant) :
    (s.refresh env f change).reads store now raw = s.reads store now' raw := by
  obtain ⟨foreign, free⟩ := steady raw given
  rw [fits.reads_refresh fun _ => foreign]
  exact Template.valueOfText_present free now now' _

theorem Fits.agrees_refresh (fits : s.Fits form g) (steady : f.Steady store name)
    {state : FieldState} (agrees : f.Agrees name (s.reads store now') state) :
    f.Agrees name ((s.refresh env f change).reads store now) state :=
  agrees.congr fun _ given => (fits.reads_refresh_self steady given now now').symm

/-- Computing a property of a field makes the field show it. -/
theorem Fits.shows_of_needs (fits : s.Fits form g) (h : g.Represents form)
    (member : f ∈ form.fields) (steady : f.Steady store name)
    (needed : (s.surroundings ⟨store, now'⟩).needs f name change = true) :
    (s.refresh ⟨store, now'⟩ f change).Shows store now f name := by
  obtain ⟨old, new, -, found, renews⟩ :=
    fits.renews ⟨store, now'⟩ change member
  have reads := fits.readsAs h ⟨store, now'⟩ member fun raw given => (steady raw given).1
  exact ⟨new, found, fits.agrees_refresh steady (renews.agrees_of_needs reads needed)⟩

/-- Computing other properties of the field leaves it showing this one. -/
theorem Shows.refresh_self (shown : s.Shows store now f name) (fits : s.Fits form g)
    (h : g.Represents form) (member : f ∈ form.fields) (steady : f.Steady store name)
    (unneeded : (s.surroundings ⟨store, now'⟩).needs f name change = false)
    (own : change.isEdit = true → name ≠ .value) :
    (s.refresh ⟨store, now'⟩ f change).Shows store now f name := by
  obtain ⟨state, present, agrees⟩ := shown
  obtain ⟨old, new, before, found, renews⟩ :=
    fits.renews ⟨store, now'⟩ change member
  cases present.symm.trans before
  have reads := fits.readsAs h ⟨store, now'⟩ member fun raw given => (steady raw given).1
  have agrees : f.Agrees name (s.reads store now') state := agrees.congr fun raw given =>
    Template.valueOfText_present (steady raw given).2 now now' _
  exact ⟨new, found, fits.agrees_refresh steady
    (renews.agrees_of_not_needs reads unneeded own agrees)⟩

/-- **A steady property is tracked on what it refers to.** -/
theorem tracks_shows (h : g.Represents form) (member : f ∈ form.fields)
    (steady : f.Steady store name) :
    Tracks form g store f (g.context f.id name) fun s => s.Shows store now f name where
  sources := by
    intro x referred
    refine h.edge_of_mem_context referred ?_
    rintro rfl
    exact steady.foreign h member referred
  timeless := fun s schedule shown => shown
  others := fun s now' f' change fits differs unread shown =>
    shown.refresh_other fits h member differs unread
  renewed := by
    rintro s now' changed trigger fits ⟨x, referred, met⟩
    refine fits.shows_of_needs h member steady (List.any_eq_true.2 ⟨x, ?_, ?_⟩)
    · rw [← fits.ofGraph] at referred
      exact referred
    · exact List.contains_iff_mem.2 met
  kept := by
    intro s now' changed trigger fits unmet shown
    refine shown.refresh_self fits h member steady (List.any_eq_false.2 fun x referred met => ?_)
      fun edited => by cases edited
    have graph : (s.surroundings ⟨store, now'⟩).graph = g := fits.ofGraph
    rw [graph] at referred
    exact unmet ⟨x, referred, List.contains_iff_mem.1 met⟩

/-! ## The first computation -/

theorem state?_computeField (i : String) :
    (s.computeField env f).state? i = ((s.refresh env f .initial).state? i).map fun state =>
      if i = f.id then { state with initialized := true } else state := by
  unfold computeField
  dsimp only
  rw [state?, lookup_putState, ← state?]
  cases found : (s.refresh env f .initial).state? i with
  | none => rfl
  | some state =>
    by_cases same : i = f.id
    · rw [same] at found
      simp only [Option.map_some, if_pos same, found, Option.getD_some]
    · simp only [Option.map_some, if_neg same]

/-- What marking the field as computed says nothing of holds of a state as it did. -/
theorem exists_state?_computeField {P : FieldState → Prop} {i : String}
    (unmarked : ∀ state, P state → P { state with initialized := true })
    (holds : ∃ state, (s.refresh env f .initial).state? i = some state ∧ P state) :
    ∃ state, (s.computeField env f).state? i = some state ∧ P state := by
  obtain ⟨state, found, holds⟩ := holds
  rw [state?_computeField, found, Option.map_some]
  split
  · exact ⟨_, rfl, unmarked state holds⟩
  · exact ⟨_, rfl, holds⟩

theorem value?_computeField (i : String) :
    (s.computeField env f).value? i = (s.refresh env f .initial).value? i := by
  rw [value?, state?_computeField, value?, Option.map_map]
  refine congrArg (fun g => Option.map g _) (funext fun state => ?_)
  by_cases same : i = f.id
  · simp only [Function.comp_apply, if_pos same]
  · simp only [Function.comp_apply, if_neg same]

theorem Fits.computeField (h : s.Fits form g) : (s.computeField env f).Fits form g where
  ofForm := h.ofForm
  ofGraph := h.ofGraph
  keys := by
    unfold Session.computeField
    rw [map_fst_putState, h.refresh.keys]
  timers := h.timers

theorem reads_computeField :
    (s.computeField env f').reads store now = (s.refresh env f' .initial).reads store now := by
  have values : (s.computeField env f').value? = (s.refresh env f' .initial).value? :=
    funext fun i => value?_computeField i
  funext raw
  rw [reads, values, reads]

/-- What is shown after computing a field is shown when the field is marked as computed. -/
theorem Shows.computeField (shown : (s.refresh env f' .initial).Shows store now f name) :
    (s.computeField env f').Shows store now f name := by
  obtain ⟨state, found, agrees⟩ := shown
  unfold Shows
  rw [state?_computeField, found, Option.map_some, reads_computeField]
  refine ⟨_, rfl, ?_⟩
  by_cases same : f.id = f'.id
  · rw [if_pos same]
    cases name <;> exact agrees
  · rw [if_neg same]
    exact agrees

end Session

end Formulary.Form
