import Formulary.Proofs.Checked
import Formulary.Proofs.LastEdit
import Formulary.Proofs.Reached

/-!
# What may be submitted

A form is submitted once its waves have run, and a field stands against it when it is `Faulty`: it
must be filled in and is not, or its value holds a block that cannot be parsed. Whether a field is
hidden is kept with the field through all waves; when nothing waits that agrees with the values that
go into the note, so the check sees what its expressions say of them.

* `submit_gate`: a form is refused for its first faulty field, and for nothing else.
-/

namespace Formulary.Template

/-- A text with the empty text in place of every field. -/
def emptiedFields (s : List Char) : List Char :=
  (fieldCuts s).flatMap (Cut.write id fun _ => ['"', '"'])

/-- A block with the empty list in place of every document, and the empty text in place of every
field. -/
def emptied (s : List Char) : List Char :=
  (documentCuts s).flatMap (Cut.write emptiedFields fun _ => ['[', ']'])

theorem substituteFields_blank_none (s : List Char) :
    substituteFields (fun _ => none) (blankDocuments ['[', ']'] s) = emptied s := by
  have fields : quoteFields (fun _ => none) = emptiedFields := by
    funext t
    exact quoteFields_eq (fun _ => none) t
  rw [substituteFields_blank, fields]
  rfl

theorem isBlank_of_isEmpty_trim {s : List Char} (empty : (Text.trim s).isEmpty = true) :
    ∀ c ∈ s, Text.isBlank c = true := by
  have stripped : (s.dropWhile Text.isBlank).reverse.dropWhile Text.isBlank = [] :=
    List.reverse_eq_nil_iff.1 (List.isEmpty_iff.1 empty)
  rw [List.dropWhile_eq_nil_iff] at stripped
  rw [← List.dropWhile_eq_nil_iff]
  refine Classical.byContradiction fun filled => ?_
  have first := List.head_dropWhile_not Text.isBlank filled
  rw [stripped _ (List.mem_reverse.2 (List.head_mem filled))] at first
  cases first

/-- A blank text has no block. -/
theorem isLiteral_of_isEmpty_trim {s : List Char} (empty : (Text.trim s).isEmpty = true) :
    (Parts.ofText s).isLiteral = true := by
  unfold Parts.ofText
  split
  · rfl
  · rename_i before rest opened
    have brace : '\x7b' ∈ s := by
      rw [cut?_eq_some opened]
      exact List.mem_append_left _ (List.mem_append_right _ List.mem_cons_self)
    exact absurd (isBlank_of_isEmpty_trim empty _ brace) (by decide)

end Formulary.Template

namespace Formulary.Form

open Template (Parts emptied)

/-- What stands against submitting a field, when texts read as `read` says. -/
inductive Field.Faulty (f : Field) (read : String → Json) (value : String) : Error → Prop
  | missing (required : f.required = true) (shown : f.hiddenBy read = false)
    (blank : (Text.trim value.toList).isEmpty = true) : Faulty f read value (.requiredField f.label)
  | malformed {cause : Script.Error} (block : (Parts.ofText value.toList).isLiteral = false)
    (refused : Script.parse (emptied (Parts.ofText value.toList).expression) = .error cause) :
    Faulty f read value (.invalidExpression f.label cause)

namespace Session

theorem valueSyntax_eq (value : String) :
    valueSyntax value = if (Parts.ofText value.toList).isLiteral then none
      else some (emptied (Parts.ofText value.toList).expression) := by
  unfold valueSyntax
  dsimp only
  rw [Template.substituteFields_blank_none]

/-- The check of a field finds what stands against it, if the field is marked as required just when
it must be filled in and is shown. -/
theorem fieldFault_eq_some_iff {f : Field} {read : String → Json} {state : FieldState}
    (marked : state.required = (f.required && !f.hiddenBy read)) {e : Error} :
    fieldFault f state = some e ↔ f.Faulty read state.value e := by
  unfold fieldFault FieldState.isBlank
  rw [valueSyntax_eq, marked]
  cases missing : f.required && !f.hiddenBy read && (Text.trim state.value.toList).isEmpty with
  | true =>
    simp only [Bool.and_eq_true, Bool.not_eq_true'] at missing
    obtain ⟨⟨required, shown⟩, blank⟩ := missing
    rw [if_pos rfl]
    constructor
    · intro found
      cases found
      exact .missing required shown blank
    · intro faulty
      cases faulty with
      | missing => rfl
      | malformed block =>
        rw [Template.isLiteral_of_isEmpty_trim blank] at block
        cases block
  | false =>
    rw [if_neg Bool.false_ne_true]
    have filled (required : f.required = true) (shown : f.hiddenBy read = false)
        (blank : (Text.trim state.value.toList).isEmpty = true) : False := by
      rw [required, shown, blank] at missing
      cases missing
    cases block : (Parts.ofText state.value.toList).isLiteral with
    | true =>
      rw [if_pos rfl]
      constructor
      · rintro ⟨⟩
      · intro faulty
        cases faulty with
        | missing required shown blank => exact (filled required shown blank).elim
        | malformed other =>
          rw [block] at other
          cases other
    | false =>
      rw [if_neg Bool.false_ne_true]
      dsimp only
      constructor
      · intro found
        split at found
        · cases found
        · rename_i cause refused
          cases found
          exact .malformed block (Template.checkSyntax_eq_error_iff.1 refused)
      · intro faulty
        cases faulty with
        | missing required shown blank => exact (filled required shown blank).elim
        | malformed _ refused => rw [Template.checkSyntax_eq_error_iff.2 refused]

variable {s t : Session} {form : Definition} {g : Graph} {store : DocumentStore}
  {now : Calendar.Instant} {f : Field}

/-- A field is faulty on the current values of the fields. -/
def Faults (t : Session) (store : DocumentStore) (now : Calendar.Instant) (f : Field) (e : Error) :
    Prop :=
  ∃ value, t.value? f.id = some value ∧ f.Faulty (t.reads store now) value e

/-- The field is marked as required just when it must be filled in and its expression shows it. -/
def Marks (t : Session) (store : DocumentStore) (now : Calendar.Instant) (f : Field) : Prop :=
  ∃ state, t.state? f.id = some state ∧
    state.required = (f.required && !f.hiddenBy (t.reads store now))

theorem bind_fieldFault_iff (marks : t.Marks store now f) (e : Error) :
    (t.state? f.id).bind (fieldFault f) = some e ↔ t.Faults store now f e := by
  obtain ⟨state, found, required⟩ := marks
  have value : t.value? f.id = some state.value := by
    rw [value?, found]
    rfl
  rw [Faults, value, found, Option.bind_some, fieldFault_eq_some_iff required]
  constructor
  · exact fun faulty => ⟨_, rfl, faulty⟩
  · rintro ⟨_, same, faulty⟩
    cases same
    exact faulty

/-- **A form is refused for its first faulty field.** -/
theorem fault_eq_some_iff (ofForm : t.form = form) (marks : ∀ f ∈ form.fields, t.Marks store now f)
    {e : Error} : t.fault = some e ↔ ∃ before f after, form.fields = before ++ f :: after ∧
      t.Faults store now f e ∧ ∀ f' ∈ before, ∀ e', ¬ t.Faults store now f' e' := by
  unfold fault
  rw [ofForm, List.findSome?_eq_some_iff]
  refine exists_congr fun before => exists_congr fun f => exists_congr fun after =>
    and_congr_right fun shape => and_congr ?_ ?_
  · have member : f ∈ form.fields := shape ▸ List.mem_append_right _ List.mem_cons_self
    exact bind_fieldFault_iff (marks f member) e
  · refine forall_congr' fun f' => forall_congr' fun early => ?_
    have member : f' ∈ form.fields := shape ▸ List.mem_append_left _ early
    rw [Option.eq_none_iff_forall_ne_some]
    exact forall_congr' fun e' => not_congr (bind_fieldFault_iff (marks f' member) e')

theorem fault_eq_none_iff (ofForm : t.form = form)
    (marks : ∀ f ∈ form.fields, t.Marks store now f) :
    t.fault = none ↔ ∀ f ∈ form.fields, ∀ e, ¬ t.Faults store now f e := by
  unfold fault
  rw [ofForm, List.findSome?_eq_none_iff]
  refine forall_congr' fun f => forall_congr' fun member => ?_
  rw [Option.eq_none_iff_forall_ne_some]
  exact forall_congr' fun e => not_congr (bind_fieldFault_iff (marks f member) e)

/-- A field that shows its visibility is marked as it must be. -/
theorem Shows.marks (shown : t.Shows store now f .hide) : t.Marks store now f := by
  obtain ⟨state, found, hidden, required⟩ := shown
  exact ⟨state, found, by rw [required, hidden]⟩

/-- Settling after a run shows a steady property again; the value, if the user does not edit it. -/
theorem Fits.shows_settle (fits : s.Fits form g) (h : g.Represents form) (member : f ∈ form.fields)
    {name : PropertyName} (steady : f.Steady store name) {steps : List (Calendar.Instant × Action)}
    (own : name = .value → ∀ step ∈ steps, ∀ raw, step.2 ≠ .edit f.id raw)
    (shown : s.Shows store now f name) :
    ((s.run store steps).settle ⟨store, now⟩).Shows store now f name := by
  have last : (s.run store steps).settle ⟨store, now⟩ =
      s.run store (steps ++ [(now, .settle)]) := by
    rw [Session.run, Session.run, List.foldl_append]
    rfl
  have idle := (fits.run store steps).isIdle_settle ⟨store, now⟩
  rw [last] at idle ⊢
  refine Shows.run fits h member steady shown (fun isValue step inside raw => ?_) idle
  rcases List.mem_append.1 inside with early | last
  · exact own isValue step early raw
  · rw [List.mem_singleton.1 last]
    rintro ⟨⟩

/-- **The gate is exact.** All that waits runs first, so that every property but the values agrees
with the final values; then the form is refused for its first faulty field, and without one its
written fields go into the note with their final values. -/
theorem submit_gate {debounce : Nat} (opened : start form debounce = .ok s)
    (foreign : ∀ f ∈ form.fields, ¬ f.Mentions f.id)
    (free : ∀ f ∈ form.fields, ∀ p ∈ f.sources, Template.ClockFree store p.2)
    (first : Calendar.Instant) (steps : List (Calendar.Instant × Action)) (now : Calendar.Instant)
    (u t : Session) (ran : u = (s.computeAll ⟨store, first⟩).run store steps)
    (settled : t = u.settle ⟨store, now⟩) :
    (t.schedule.isIdle = true ∧ (∃ trace, (u.submit ⟨store, now⟩).2 = { t with trace := trace }) ∧
      ∀ f ∈ form.fields, ∀ name, name ≠ .value → t.Shows store now f name) ∧
    match (u.submit ⟨store, now⟩).1 with
    | .error e => ∃ before f after, form.fields = before ++ f :: after ∧
        t.Faults store now f e ∧ ∀ f' ∈ before, ∀ e', ¬ t.Faults store now f' e'
    | .ok note => (∀ f ∈ form.fields, ∀ e, ¬ t.Faults store now f e) ∧
        List.Forall₂ (fun f d => d.id = f.id ∧ d.kind = f.kind ∧ t.value? f.id = some d.value)
          (form.fields.filter Field.written) note.data ∧
        note.frontMatter = Form.frontMatter note.data := by
  have h := Graph.represents_of_ok (start_ok opened).2.1
  have computed := (fits_start opened).computeAll ⟨store, first⟩
  have fits : u.Fits form s.graph := ran ▸ computed.run store steps
  have fits' : t.Fits form s.graph := settled ▸ fits.act .settle
  have shows : ∀ f ∈ form.fields, ∀ name, name ≠ .value → t.Shows store now f name := by
    intro f member name other
    have steady : f.Steady store name := by
      intro raw given
      have source : (name, raw) ∈ f.sources := Field.mem_sources.2 given
      exact ⟨fun mentioned => foreign f member ⟨(name, raw), source, mentioned⟩,
        free f member (name, raw) source⟩
    have initially := shows_computeAll h (fits_start opened) first now member steady
    rw [settled, ran]
    exact computed.shows_settle h member steady (fun isValue => absurd isValue other) initially
  have marks := fun f member => (shows f member .hide (by rintro ⟨⟩)).marks
  have outcome := submit_cases u ⟨store, now⟩
  have after := submit_snd u ⟨store, now⟩
  rw [← settled] at outcome after
  refine ⟨⟨settled ▸ fits.isIdle_settle _, after, shows⟩, ?_⟩
  rcases outcome with ⟨e, faulty, refused⟩ | ⟨sound, note, made, data, text⟩
  · rw [refused]
    exact (fault_eq_some_iff fits'.ofForm marks).1 faulty
  · rw [made]
    refine ⟨(fault_eq_none_iff fits'.ofForm marks).1 sound, ?_, text⟩
    rw [data, Session.data, fits'.ofForm, List.forall₂_map_right_iff, List.forall₂_same]
    intro f written
    obtain ⟨state, found⟩ := fits'.state? (List.mem_map_of_mem (List.mem_filter.1 written).1)
    refine ⟨rfl, rfl, ?_⟩
    rw [value?, found]
    rfl

/-! ## An example -/

def town : Field := { id := "city", label := "City", kind := .text }

def visa : Field :=
  { id := "visa", label := "Visa", kind := .text, required := true, hide := some "{{$$.city}}" }

def stay : Definition := { title := "Stay", fields := [town, visa] }

/-- The form as it opens. -/
def openedStay : Session := (start stay defaultDebounce).toOption.get (by decide +kernel)

theorem start_stay : start stay defaultDebounce = .ok openedStay := eq_ok_get _

theorem town_mem : town ∈ stay.fields := List.mem_cons_self

theorem visa_mem : visa ∈ stay.fields := List.mem_cons_of_mem _ List.mem_cons_self

/-- The fields of the form refer to the city, and to nothing else. -/
theorem mem_sources_stay (member : f ∈ stay.fields) {p : PropertyName × String}
    (source : p ∈ f.sources) : p.2 = "{{$$.city}}" ∧ f.id ≠ "city" := by
  have each : ∀ f ∈ stay.fields, ∀ p ∈ f.sources, p.2 = "{{$$.city}}" ∧ f.id ≠ "city" := by
    decide
  exact each f member p source

/-- After the form is settled an edit of the city stands, and the visa is blank. -/
theorem values_stay (started : start stay defaultDebounce = .ok s) (store : DocumentStore)
    (first edited now : Calendar.Instant) :
    let t := ((s.computeAll ⟨store, first⟩).run store [(edited, .edit "city" "Rome")]).settle
      ⟨store, now⟩
    t.value? "city" = some "Rome" ∧ t.value? "visa" = some "" := by
  intro t
  have h := Graph.represents_of_ok (start_ok started).2.1
  have computed := (fits_start started).computeAll ⟨store, first⟩
  constructor
  · obtain ⟨old, present⟩ := computed.state? (List.mem_map_of_mem town_mem)
    have calm : ∀ o ∈ (s.computeAll ⟨store, first⟩).waiting, stay.Spares o town := by
      rw [waiting_computeAll, waiting, (start_ok started).2.2.2]
      exact fun _ absurd => by cases absurd
    have held : ((s.computeAll ⟨store, first⟩).run store ((edited, .edit town.id "Rome") ::
        [(now, .settle)])).Holds town "Rome" :=
      computed.holds_after_edit h town_mem present rfl rfl calm (by simp) (by simp)
    exact held.value?
  · have steady : visa.Steady store .value := fun raw text => by cases text
    have initially := shows_computeAll h (fits_start started) first now visa_mem steady
    have shown : t.Shows store now visa .value :=
      computed.shows_settle h visa_mem steady (by simp [visa]) initially
    have taken : coerce visa.kind {} (visa.contentBy (t.reads store now)) = .ok "" := rfl
    exact shown.value?_eq rfl taken

/-- The city that was given hides the visa, which must be filled in without it, although the wave of
the edit still waits when the form is submitted. -/
theorem submit_gate_stay : ∃ s, start stay defaultDebounce = .ok s ∧
    ∀ (store : DocumentStore) (first edited now : Calendar.Instant) (u : Session),
      u = (s.computeAll ⟨store, first⟩).run store [(edited, .edit "city" "Rome")] →
      "city" ∈ u.waiting ∧ ∃ note, (u.submit ⟨store, now⟩).1 = .ok note ∧
        note.data = [⟨"city", .text, "Rome"⟩, ⟨"visa", .text, ""⟩] := by
  refine ⟨openedStay, start_stay, ?_⟩
  intro store first edited now u ran
  have foreign : ∀ f ∈ stay.fields, ¬ f.Mentions f.id := by
    rintro f member ⟨p, source, mentioned⟩
    obtain ⟨text, differs⟩ := mem_sources_stay member source
    rw [text] at mentioned
    exact differs (mentions_city.1 mentioned)
  have free : ∀ f ∈ stay.fields, ∀ p ∈ f.sources, Template.ClockFree store p.2 := by
    intro f member p source
    rw [(mem_sources_stay member source).1]
    exact refersTo_city.clockFree
  obtain ⟨city, blank⟩ := values_stay start_stay store first edited now
  rw [← ran] at city blank
  have waits : "city" ∈ u.waiting := by
    have h := Graph.represents_of_ok (start_ok start_stay).2.1
    have computed := (fits_start start_stay).computeAll ⟨store, first⟩
    have given : u = (openedStay.computeAll ⟨store, first⟩).editField ⟨store, edited⟩ town "Rome" :=
      ran.trans (computed.act_edit_self h town_mem)
    rw [given]
    exact computed.waiting_editField town "Rome" rfl
  refine ⟨waits, ?_⟩
  have gate := (submit_gate start_stay foreign free first _ now u _ ran rfl).2
  cases submitted : (u.submit ⟨store, now⟩).1 with
  | error e =>
    rw [submitted] at gate
    obtain ⟨before, f, after, shape, ⟨value, given, faulty⟩, -⟩ := gate
    have member : f ∈ stay.fields := shape ▸ List.mem_append_right _ List.mem_cons_self
    rcases List.mem_cons.1 member with rfl | member
    · cases city.symm.trans given
      cases faulty with
      | missing required => cases required
      | malformed block => exact absurd block (by decide +kernel)
    · rw [List.mem_singleton] at member
      subst member
      cases blank.symm.trans given
      cases faulty with
      | missing _ shown =>
        have hidden : visa.hiddenBy ((u.settle ⟨store, now⟩).reads store now) = true :=
          congrArg Json.truthy (reads_city city)
        cases hidden.symm.trans shown
      | malformed block => exact absurd block (by decide +kernel)
  | ok note =>
    rw [submitted] at gate
    obtain ⟨-, data, -⟩ := gate
    have written : stay.fields.filter Field.written = [town, visa] := rfl
    rw [written] at data
    refine ⟨note, rfl, ?_⟩
    generalize note.data = lines at data
    cases data with
    | @cons _ line _ lines ofTown rest =>
      cases rest with
      | @cons _ line' _ lines ofVisa rest =>
        cases rest
        obtain ⟨id, kind, value⟩ := line
        obtain ⟨id', kind', value'⟩ := line'
        obtain ⟨rfl, rfl, given⟩ := ofTown
        obtain ⟨rfl, rfl, given'⟩ := ofVisa
        cases city.symm.trans given
        cases blank.symm.trans given'
        rfl

end Session

end Formulary.Form
