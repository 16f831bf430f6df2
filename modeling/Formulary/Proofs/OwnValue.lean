import Formulary.Proofs.LastEdit
import Formulary.Proofs.Reached
import Formulary.Proofs.Reaches

/-!
# Properties that read their own field

A placeholder, a description or what hides a field may refer to the field itself. It is then shown
for the value that the field had when the property was computed (`ShowsFor`), which happens when
another field that it refers to changes, and not when the field's own value does; what hides a
field is computed also when the user edits the field. So it is up to date if whatever computes the
value computes the property too (`Definition.Watches`).

* `own_value_shown`: once nothing waits, such a property is shown for some value of its own field
  and the current values of the others; for the current value of its own field if what happened
  since it was computed watches it.
* `ShowsFor.run_alone`: a property that refers to no other field is shown for one value for good,
  whatever becomes of the field.
-/

namespace Formulary.Form

open Relation (ReflTransGen TransGen)

/-- The properties that are computed after the value. -/
def PropertyName.isDisplayed : PropertyName → Bool
  | .placeholder | .description | .hide => true
  | _ => false

variable {form : Definition} {g : Graph} {f f' : Field} {name : PropertyName} {o : String}

/-! ## Computing a field -/

namespace Surroundings

variable {s : Surroundings} {change : Change} {read : String → Json} {old new : FieldState}

/-- A change has the property computed. -/
def Computes (s : Surroundings) (f : Field) (name : PropertyName) (change : Change) : Prop :=
  s.needs f name change = true ∨ name = .hide ∧ change.isEdit = true

theorem computes_iff_of_ne_hide (other : name ≠ .hide) :
    s.Computes f name change ↔ s.needs f name change = true :=
  or_iff_left fun hide => other hide.1

/-- A property that is computed has the value of its text in the field's new state. -/
theorem Renews.agrees_of_computes (r : s.Renews f change old new)
    (displayed : name.isDisplayed = true)
    (reads : ∀ raw, f.text? name = some raw → s.valueOf f name raw new = read raw)
    (computes : s.Computes f name change) : f.Agrees name read new := by
  cases name with
  | placeholder =>
    intro raw given
    rw [computes_iff_of_ne_hide (by decide)] at computes
    rw [r.placeholder, given, ← reads raw given]
    exact if_pos computes
  | description =>
    intro raw given
    rw [computes_iff_of_ne_hide (by decide)] at computes
    rw [r.description, given, ← reads raw given]
    exact if_pos computes
  | hide =>
    have decided : (change.isEdit || s.needs f .hide change) = true :=
      Bool.or_eq_true_iff.2 (computes.symm.imp_left And.right)
    have hides : s.hides f new = f.hiddenBy read := f.hiddenBy_congr reads
    exact ⟨by rw [r.hidden, if_pos decided, hides], by rw [r.required, if_pos decided]⟩
  | _ => cases displayed

/-- A property that is not computed stays as it is. -/
theorem Renews.agrees_of_not_computes (r : s.Renews f change old new)
    (displayed : name.isDisplayed = true) (idle : ¬ s.Computes f name change)
    (h : f.Agrees name read old) : f.Agrees name read new := by
  cases name with
  | placeholder =>
    intro raw given
    rw [computes_iff_of_ne_hide (by decide)] at idle
    rw [r.placeholder, given, ← h raw given]
    exact if_neg idle
  | description =>
    intro raw given
    rw [computes_iff_of_ne_hide (by decide)] at idle
    rw [r.description, given, ← h raw given]
    exact if_neg idle
  | hide =>
    have decided : ¬ (change.isEdit || s.needs f .hide change) = true := fun decided =>
      idle ((Bool.or_eq_true_iff.1 decided).symm.imp_right fun edit => ⟨rfl, edit⟩)
    have hidden := r.hidden
    have required := r.required
    rw [if_neg decided] at hidden required
    rw [Field.Agrees, hidden, required]
    exact h
  | _ => cases displayed

end Surroundings

/-! ## Values of the own field -/

namespace Session

variable {s : Session} {env : Environment} {change : Change} {store : DocumentStore}
  {now now' : Calendar.Instant} {v : String}

/-- The value of a text on the current values of the fields, but for the one of `id`. -/
def readsFor (s : Session) (id v : String) (store : DocumentStore) (now : Calendar.Instant)
    (raw : String) : Json :=
  Template.valueOfText now store (Function.update s.value? id (some v)) raw

/-- The field agrees with a property for a value of its own and the current values of the others. -/
def ShowsFor (s : Session) (store : DocumentStore) (now : Calendar.Instant) (f : Field)
    (name : PropertyName) (v : String) : Prop :=
  ∃ state, s.state? f.id = some state ∧ f.Agrees name (s.readsFor f.id v store now) state

theorem readsFor_of_value? {id : String} (current : s.value? id = some v) :
    s.readsFor id v store now = s.reads store now := by
  have same : Function.update s.value? id (some v) = s.value? := by
    rw [← current]
    exact Function.update_eq_self id s.value?
  unfold readsFor
  rw [same]
  rfl

/-- What is shown for the current value is shown. -/
theorem showsFor_iff (current : s.value? f.id = some v) :
    s.ShowsFor store now f name v ↔ s.Shows store now f name := by
  unfold ShowsFor
  rw [readsFor_of_value? current]
  rfl

theorem readsFor_refresh_self :
    (s.refresh env f change).readsFor f.id v store now = s.readsFor f.id v store now := by
  have same : Function.update (s.refresh env f change).value? f.id (some v) =
      Function.update s.value? f.id (some v) := by
    funext i
    by_cases own : i = f.id
    · rw [own, Function.update_self, Function.update_self]
    · rw [Function.update_of_ne own, Function.update_of_ne own, value?_refresh_of_ne own]
  unfold readsFor
  rw [same]

/-- Computing a field that a text does not mention leaves the value of the text. -/
theorem Fits.readsFor_refresh (fits : s.Fits form g) {id raw : String}
    (unread : f'.id ∈ form.ids → ¬ Template.Mentions raw.toList f'.id.toList) :
    (s.refresh env f' change).readsFor id v store now raw = s.readsFor id v store now raw := by
  refine Template.valueOfText_congr now store fun i mentioned => ?_
  by_cases own : i = id
  · rw [own, Function.update_self, Function.update_self]
  · rw [Function.update_of_ne own, Function.update_of_ne own]
    by_cases same : i = f'.id
    · subst same
      have outside : f'.id ∉ form.ids := fun inside => unread inside mentioned
      rw [fits.value?_of_not_mem outside, fits.refresh.value?_of_not_mem outside]
    · exact value?_refresh_of_ne same

/-- In a computation the text of a property has its value on the values that there are then. -/
theorem Fits.valueOf_refresh (fits : s.Fits form g) (h : g.Represents form)
    (member : f ∈ form.fields) {raw : String} (given : f.text? name = some raw) {new : FieldState}
    (found : (s.refresh env f change).state? f.id = some new) :
    (s.surroundings env).valueOf f name raw new =
      (s.refresh env f change).reads env.store env.now raw := by
  refine Template.valueOfText_congr env.now env.store fun i mentioned => ?_
  have graph : (s.surroundings env).graph = g := fits.ofGraph
  unfold Surroundings.context
  rw [graph]
  by_cases inside : i ∈ form.ids
  · have referred : i ∈ g.context f.id name :=
      (h.mem_context member).2 ⟨raw, given, inside, mentioned⟩
    rw [if_pos (List.contains_iff_mem.2 referred)]
    split
    · rename_i own
      rw [own, Session.value?, found]
      rfl
    · rename_i other
      exact (value?_refresh_of_ne other).symm
  · have unknown : i ∉ g.context f.id name := fun referred => by
      obtain ⟨-, -, inside', -⟩ := (h.mem_context member).1 referred
      exact inside inside'
    rw [if_neg (fun referred => unknown (List.contains_iff_mem.1 referred)),
      fits.refresh.value?_of_not_mem inside]

/-- Computing a displayed property has the field show it. -/
theorem Fits.shows_of_computes (fits : s.Fits form g) (h : g.Represents form)
    (member : f ∈ form.fields) (displayed : name.isDisplayed = true)
    (free : ∀ raw, f.text? name = some raw → Template.ClockFree store raw)
    (computes : (s.surroundings ⟨store, now'⟩).Computes f name change) :
    (s.refresh ⟨store, now'⟩ f change).Shows store now f name := by
  obtain ⟨old, new, -, found, renews⟩ := fits.renews ⟨store, now'⟩ change member
  refine ⟨new, found, renews.agrees_of_computes displayed (fun raw given => ?_) computes⟩
  rw [fits.valueOf_refresh h member given found]
  exact Template.valueOfText_present (free raw given) now' now _

/-- A displayed property that is not computed is shown for the same value. -/
theorem ShowsFor.refresh_self (shown : s.ShowsFor store now f name v) (fits : s.Fits form g)
    (member : f ∈ form.fields) (displayed : name.isDisplayed = true)
    (idle : ¬ (s.surroundings env).Computes f name change) :
    (s.refresh env f change).ShowsFor store now f name v := by
  obtain ⟨state, present, agrees⟩ := shown
  obtain ⟨old, new, before, found, renews⟩ := fits.renews env change member
  cases present.symm.trans before
  refine ⟨new, found, ?_⟩
  rw [readsFor_refresh_self]
  exact renews.agrees_of_not_computes displayed idle agrees

/-- Computing another field that a property does not refer to leaves it shown. -/
theorem ShowsFor.refresh_other (shown : s.ShowsFor store now f name v) (fits : s.Fits form g)
    (h : g.Represents form) (member : f ∈ form.fields) (differs : f'.id ≠ f.id)
    (unread : f'.id ∉ g.context f.id name) :
    (s.refresh env f' change).ShowsFor store now f name v := by
  obtain ⟨state, found, agrees⟩ := shown
  refine ⟨state, ?_,
    agrees.congr fun raw given => (fits.readsFor_refresh fun inside mentioned => ?_).symm⟩
  · rw [state?_refresh_of_ne (Ne.symm differs), found]
  · exact unread ((h.mem_context member).2 ⟨raw, given, inside, mentioned⟩)

theorem Fits.exists_showsFor (fits : s.Fits form g) (member : f ∈ form.fields)
    (shown : s.Shows store now f name) : ∃ v, s.ShowsFor store now f name v := by
  obtain ⟨state, found⟩ := fits.state? (List.mem_map_of_mem member)
  have current : s.value? f.id = some state.value := by
    rw [Session.value?, found]
    rfl
  exact ⟨state.value, (showsFor_iff current).2 shown⟩

/-! ## Shown for a value of its own -/

/-- Another field to which the property refers. -/
def foreignContext (g : Graph) (f : Field) (name : PropertyName) : List String :=
  (g.context f.id name).filter (· ≠ f.id)

theorem edge_of_mem_foreignContext (h : g.Represents form) {x : String}
    (among : x ∈ foreignContext g f name) : form.Edge x f.id := by
  obtain ⟨referred, differs⟩ := List.mem_filter.1 among
  exact h.edge_of_mem_context referred (of_decide_eq_true differs)

/-- **A displayed property is followed on the other fields that it refers to**: it is shown for one
of some values of its own field, if it is computed only where they are all. -/
theorem follows_showsFor (h : g.Represents form) (member : f ∈ form.fields)
    (displayed : name.isDisplayed = true)
    (free : ∀ raw, f.text? name = some raw → Template.ClockFree store raw)
    (now : Calendar.Instant) (V : String → Prop) :
    Follows (fun env => env.store = store)
      (fun changed => (∃ x ∈ g.context f.id name, x ∈ changed) → ∀ v, V v) form g f
      (foreignContext g f name) fun s => ∃ v, V v ∧ s.ShowsFor store now f name v := by
  have computed {s : Session} {now' : Calendar.Instant} {changed : List String} (trigger : String)
      (admitted : (∃ x ∈ g.context f.id name, x ∈ changed) → ∀ v, V v) (fits : s.Fits form g)
      (met : ∃ x ∈ g.context f.id name, x ∈ changed) : ∃ v, V v ∧
        (s.refresh ⟨store, now'⟩ f (.others changed trigger)).ShowsFor store now f name v := by
    have shown : (s.refresh ⟨store, now'⟩ f (.others changed trigger)).Shows store now f name :=
      fits.shows_of_computes h member displayed free (Or.inl (fits.needs_iff.2 met))
    obtain ⟨v, shown⟩ := fits.refresh.exists_showsFor member shown
    exact ⟨v, admitted met v, shown⟩
  refine {
    sources := fun x among => edge_of_mem_foreignContext h among
    timeless := fun _ _ shown => shown
    others := ?others
    renewed := ?renewed
    kept := ?kept }
  case others =>
    rintro s env f' change - fits differs unread ⟨v, allowed, shown⟩
    refine ⟨v, allowed, shown.refresh_other fits h member differs fun referred => ?_⟩
    exact unread (List.mem_filter.2 ⟨referred, decide_eq_true differs⟩)
  case renewed =>
    rintro s ⟨_, now'⟩ changed trigger rfl admitted fits ⟨x, among, met⟩
    exact computed trigger admitted fits ⟨x, (List.mem_filter.1 among).1, met⟩
  case kept =>
    rintro s ⟨_, now'⟩ changed trigger rfl admitted fits - ⟨v, allowed, shown⟩
    by_cases met : ∃ x ∈ g.context f.id name, x ∈ changed
    · exact computed trigger admitted fits met
    · refine ⟨v, allowed, shown.refresh_self fits member displayed fun computes => ?_⟩
      rcases computes with needed | ⟨-, edit⟩
      · exact met (fits.needs_iff.1 needed)
      · cases edit

end Session

/-! ## Shown for the current value -/

/-- What has changed at the turn of a field that has its value computed also has the property
computed. -/
def Graph.Watched (g : Graph) (f : Field) (name : PropertyName) (changed : List String) : Prop :=
  f.id ∉ changed ∧
    ((∃ x ∈ g.context f.id .value, x ∈ changed) ∨ (∃ x ∈ g.context f.id .options, x ∈ changed) →
      ∃ x ∈ g.context f.id name, x ∈ changed)

/-- The waves of `o` that have the value of the field computed also have the property computed. -/
def Definition.Watches (form : Definition) (o : String) (name : PropertyName) (f : Field) : Prop :=
  form.Reaches o .value f ∨ form.Reaches o .options f → form.Reaches o name f

/-- Waves of the field itself do not compute it. -/
theorem Graph.Represents.watches_self (h : g.Represents form) (member : f ∈ form.fields) :
    form.Watches f.id name f := by
  have apart {name : PropertyName} : ¬ form.Reaches f.id name f := h.not_reaches_self member
  exact fun computes => absurd computes (not_or_intro apart apart)

theorem Graph.Represents.admits_watches (h : g.Represents form) (member : f ∈ form.fields)
    (watches : form.Watches o name f) : g.Admits (g.Watched f name) f.id o := by
  intro changed turn
  refine ⟨(h.of_turn turn).1, ?_⟩
  rw [h.meets_iff member turn, h.meets_iff member turn, h.meets_iff member turn]
  exact watches

namespace Session

variable {s : Session} {env : Environment} {change : Change} {store : DocumentStore}
  {now now' : Calendar.Instant} {v : String}

/-- The field shows the property, and its value has not dropped out of the options. -/
structure UpToDate (s : Session) (store : DocumentStore) (now : Calendar.Instant) (f : Field)
    (name : PropertyName) : Prop where
  shown : s.Shows store now f name
  fresh : ∃ state, s.state? f.id = some state ∧ Surroundings.hasStaleOption f state = false

theorem Fits.fresh_refresh (fits : s.Fits form g) (member : f ∈ form.fields) :
    ∃ state, (s.refresh env f change).state? f.id = some state ∧
      Surroundings.hasStaleOption f state = false := by
  obtain ⟨old, found⟩ := fits.state? (List.mem_map_of_mem member)
  exact ⟨_, state?_refresh_self found, Surroundings.hasStaleOption_refresh old⟩

/-- Computing the property brings it up to date. -/
theorem Fits.upToDate_of_computes (fits : s.Fits form g) (h : g.Represents form)
    (member : f ∈ form.fields) (displayed : name.isDisplayed = true)
    (free : ∀ raw, f.text? name = some raw → Template.ClockFree store raw)
    (computes : (s.surroundings ⟨store, now'⟩).Computes f name change) :
    (s.refresh ⟨store, now'⟩ f change).UpToDate store now f name :=
  ⟨fits.shows_of_computes h member displayed free computes, fits.fresh_refresh member⟩

theorem UpToDate.refresh_other (upToDate : s.UpToDate store now f name) (fits : s.Fits form g)
    (h : g.Represents form) (member : f ∈ form.fields) (differs : f'.id ≠ f.id)
    (unread : f'.id ∉ g.context f.id name) :
    (s.refresh env f' change).UpToDate store now f name := by
  obtain ⟨shown, state, found, fresh⟩ := upToDate
  refine ⟨shown.refresh_other fits h member differs unread, state, ?_, fresh⟩
  rw [state?_refresh_of_ne (Ne.symm differs), found]

/-- Changes of others that compute neither the value nor the property leave it up to date. -/
theorem UpToDate.refresh_self (upToDate : s.UpToDate store now f name) (fits : s.Fits form g)
    (member : f ∈ form.fields) (displayed : name.isDisplayed = true) {changed : List String}
    {trigger : String} (watched : g.Watched f name changed)
    (unmet : ¬ ∃ x ∈ g.context f.id name, x ∈ changed) :
    (s.refresh env f (.others changed trigger)).UpToDate store now f name := by
  obtain ⟨shown, state, present, fresh⟩ := upToDate
  obtain ⟨old, new, before, found, renews⟩ := fits.renews env (.others changed trigger) member
  cases present.symm.trans before
  have unneeded {other : PropertyName} (which : other = .value ∨ other = .options) :
      (s.surroundings env).needs f other (.others changed trigger) = false := by
    refine Bool.eq_false_iff.2 fun needed => unmet (watched.2 ?_)
    rcases which with rfl | rfl
    · exact Or.inl (fits.needs_iff.1 needed)
    · exact Or.inr (fits.needs_iff.1 needed)
  have nothing : (s.surroundings env).proposed f (.others changed trigger) state = none :=
    Surroundings.not_proposes_of_not_needs (unneeded (Or.inl rfl)) fresh
  obtain ⟨sameValue, sameOptions⟩ := renews.kept (unneeded (Or.inr rfl)) nothing
  have current : s.value? f.id = some state.value := by
    rw [Session.value?, present]
    rfl
  have after : (s.refresh env f (.others changed trigger)).value? f.id = some state.value := by
    rw [Session.value?, found, ← sameValue]
    rfl
  refine ⟨(showsFor_iff after).1 ?_, fits.fresh_refresh member⟩
  refine ((showsFor_iff current).2 shown).refresh_self fits member displayed fun computes => ?_
  rcases computes with needed | ⟨-, edit⟩
  · exact unmet (fits.needs_iff.1 needed)
  · cases edit

/-- **A displayed property is followed on the other fields that it refers to**, where a new value
comes with a new property. -/
theorem follows_upToDate (h : g.Represents form) (member : f ∈ form.fields)
    (displayed : name.isDisplayed = true)
    (free : ∀ raw, f.text? name = some raw → Template.ClockFree store raw)
    (now : Calendar.Instant) :
    Follows (fun env => env.store = store) (g.Watched f name) form g f (foreignContext g f name)
      fun s => s.UpToDate store now f name where
  sources := fun x among => edge_of_mem_foreignContext h among
  timeless := fun _ _ upToDate => ⟨upToDate.shown, upToDate.fresh⟩
  others := by
    rintro s env f' change - fits differs unread upToDate
    refine upToDate.refresh_other fits h member differs fun referred => ?_
    exact unread (List.mem_filter.2 ⟨referred, decide_eq_true differs⟩)
  renewed := by
    rintro s ⟨_, now'⟩ changed trigger rfl - fits ⟨x, among, met⟩
    refine fits.upToDate_of_computes h member displayed free (Or.inl (fits.needs_iff.2 ?_))
    exact ⟨x, (List.mem_filter.1 among).1, met⟩
  kept := by
    rintro s ⟨_, now'⟩ changed trigger rfl watched fits unmet upToDate
    refine upToDate.refresh_self fits member displayed watched ?_
    rintro ⟨x, referred, met⟩
    refine unmet ⟨x, List.mem_filter.2 ⟨referred, decide_eq_true ?_⟩, met⟩
    rintro rfl
    exact watched.1 met

theorem UpToDate.computeField (upToDate : (s.refresh env f' .initial).UpToDate store now f name) :
    (s.computeField env f').UpToDate store now f name :=
  ⟨upToDate.shown.computeField, exists_state?_computeField (fun _ fresh => fresh) upToDate.fresh⟩

/-- After the first computation of all fields every displayed property is up to date. -/
theorem upToDate_computeAll (h : g.Represents form) (fits : s.Fits form g)
    (first now : Calendar.Instant) (member : f ∈ form.fields) (displayed : name.isDisplayed = true)
    (free : ∀ raw, f.text? name = some raw → Template.ClockFree store raw) :
    (s.computeAll ⟨store, first⟩).UpToDate store now f name := by
  refine computeAll_brings (B := fun _ => True) (Q := fun t => t.UpToDate store now f name) h fits
    ⟨store, first⟩ member (fun _ _ _ _ _ => trivial) (fun t fits _ => ?_)
    (fun t f' fits differs apart upToDate => ?_) trivial
  · exact (fits.upToDate_of_computes h member displayed free (Or.inl rfl)).computeField
  · refine (upToDate.refresh_other fits h member differs fun referred => apart ?_).computeField
    exact h.edge_of_mem_context referred differs

/-- From here on whatever computes the value of the field has the property computed, and the
property is up to date (`current`) or about to be computed. -/
structure KeepsUp (u : Session) (f : Field) (name : PropertyName) (current : Prop)
    (steps : List (Calendar.Instant × Action)) : Prop where
  since : current ∨ (∃ o ∈ u.waiting, u.form.Reaches o name f) ∨
    ∃ now o raw rest, steps = (now, .edit o raw) :: rest ∧
      (u.form.Reaches o name f ∨ name = .hide ∧ o = f.id)
  waves : ∀ o, (o ∈ u.waiting ∨ ∃ step ∈ steps, ∃ raw, step.2 = .edit o raw) →
    u.form.Watches o name f
  own : name = .hide ∨ ∀ step ∈ steps, ∀ raw, step.2 ≠ .edit f.id raw

section Runs

variable {steps : List (Calendar.Instant × Action)}

theorem mem_foreignContext (h : g.Represents form) (member : f ∈ form.fields) {x : String}
    (refers : form.Refers name x f) : x ∈ foreignContext g f name := by
  obtain ⟨differs, referred⟩ := (h.refers_iff member).1 refers
  exact List.mem_filter.2 ⟨referred, decide_eq_true differs⟩

/-- **A run with which the property keeps up** leaves it up to date when nothing waits. -/
theorem KeepsUp.upToDate {current : Prop} (keepsUp : s.KeepsUp f name current steps)
    (start : current → s.UpToDate store now f name) (fits : s.Fits form g) (h : g.Represents form)
    (member : f ∈ form.fields) (displayed : name.isDisplayed = true)
    (free : ∀ raw, f.text? name = some raw → Template.ClockFree store raw)
    (ordinary : ∀ step ∈ steps, ∀ id trigger, step.2 ≠ .sourceChanged id trigger)
    (idle : (s.run store steps).schedule.isIdle = true) :
    (s.run store steps).UpToDate store now f name := by
  obtain ⟨since, waves, own⟩ := keepsUp
  rw [fits.ofForm] at since waves
  have known := Definition.field?_of_mem h.unique member
  have follows := follows_upToDate h member displayed free now
  have admits : ∀ o, (o ∈ s.waiting ∨ ∃ step ∈ steps, step.2.origin? = some o) →
      g.Admits (g.Watched f name) f.id o := by
    intro o starts
    refine h.admits_watches member (waves o (starts.imp_right ?_))
    rintro ⟨step, inside, origin⟩
    exact ⟨step, inside, Action.edit_of_origin? origin (ordinary step inside)⟩
  have edited : ∀ step ∈ steps, ∀ raw, step.2 = .edit f.id raw → ∀ s : Session, s.Fits form g →
      s.UpToDate store now f name →
        (s.refresh ⟨store, step.1⟩ f (.user raw)).UpToDate store now f name := by
    intro step inside raw edits s fits _
    rcases own with hide | none
    · exact fits.upToDate_of_computes h member displayed free (Or.inr ⟨hide, rfl⟩)
    · exact absurd edits (none step inside raw)
  have direct : ∀ step ∈ steps, ∀ trigger, step.2 = .sourceChanged f.id trigger →
      g.Watched f name [trigger] :=
    fun step inside trigger changes => absurd changes (ordinary step inside _ _)
  have reached (since : s.UpToDate store now f name ∨ s.Owes (foreignContext g f name) f.id) :
      (s.run store steps).UpToDate store now f name :=
    (follows.run known h fits edited admits direct since).resolve_right (not_owes_of_isIdle idle)
  rcases since with current | ⟨o, waits, reaches⟩ | ⟨instant, o, raw, rest, rfl, brings⟩
  · exact reached (Or.inl (start current))
  · refine reached (Or.inr ⟨o, waits, ?_⟩)
    rw [fits.ofGraph]
    exact h.brings_of_reaches member (fun x => mem_foreignContext h member) reaches
  · obtain ⟨f', found⟩ : ∃ f', form.field? o = some f' := by
      rcases brings with ⟨x, ⟨-, inside, -⟩, path⟩ | ⟨-, rfl⟩
      · exact Definition.exists_field?_of_path path inside
      · exact ⟨f, known⟩
    obtain ⟨-, rfl⟩ := Definition.mem_of_field? found
    refine (follows.run_edit known h fits found
      (fun step inside => edited step (List.mem_cons_of_mem _ inside)) admits
      (fun step inside => direct step (List.mem_cons_of_mem _ inside)) ?_).resolve_right
      (not_owes_of_isIdle idle)
    rcases brings with reaches | ⟨hide, same⟩
    · exact Or.inr (h.brings_of_reaches member (fun x => mem_foreignContext h member) reaches)
    · rw [same, known] at found
      cases found
      exact Or.inl (fits.upToDate_of_computes h member displayed free (Or.inr ⟨hide, rfl⟩))

/-- **Any run** leaves a displayed property shown for some value of its own field. -/
theorem Fits.showsFor_run (fits : s.Fits form g) (h : g.Represents form) (member : f ∈ form.fields)
    (displayed : name.isDisplayed = true)
    (free : ∀ raw, f.text? name = some raw → Template.ClockFree store raw)
    (shown : ∃ v, s.ShowsFor store now f name v)
    (idle : (s.run store steps).schedule.isIdle = true) :
    ∃ v, (s.run store steps).ShowsFor store now f name v := by
  have known := Definition.field?_of_mem h.unique member
  have follows := follows_showsFor h member displayed free now fun _ => True
  have edited : ∀ step ∈ steps, ∀ raw, step.2 = .edit f.id raw → ∀ s : Session, s.Fits form g →
      (∃ v, True ∧ s.ShowsFor store now f name v) →
        ∃ v, True ∧ (s.refresh ⟨store, step.1⟩ f (.user raw)).ShowsFor store now f name v := by
    rintro step - raw - s fits ⟨v, -, shown⟩
    by_cases computes : (s.surroundings ⟨store, step.1⟩).Computes f name (.user raw)
    · have shown : (s.refresh ⟨store, step.1⟩ f (.user raw)).Shows store now f name :=
        fits.shows_of_computes h member displayed free computes
      obtain ⟨w, after⟩ := fits.refresh.exists_showsFor member shown
      exact ⟨w, trivial, after⟩
    · exact ⟨v, trivial, shown.refresh_self fits member displayed computes⟩
  obtain ⟨v, shown⟩ := shown
  obtain ⟨w, -, after⟩ := (follows.run known h fits edited (fun _ _ _ _ _ _ => trivial)
    (fun _ _ _ _ _ _ => trivial) (Or.inl ⟨v, trivial, shown⟩)).resolve_right
    (not_owes_of_isIdle idle)
  exact ⟨w, after⟩

/-- **A property that refers to no other field is not computed again**, but for what hides a field
that the user edits: whatever else happens, it stays as it is. -/
theorem ShowsFor.run_alone (shown : s.ShowsFor store now f name v) (fits : s.Fits form g)
    (h : g.Represents form) (member : f ∈ form.fields) (displayed : name.isDisplayed = true)
    (free : ∀ raw, f.text? name = some raw → Template.ClockFree store raw)
    (alone : ∀ x, ¬ form.Refers name x f)
    (own : name ≠ .hide ∨ ∀ step ∈ steps, ∀ raw, step.2 ≠ .edit f.id raw)
    (ordinary : ∀ step ∈ steps, ∀ id trigger, step.2 ≠ .sourceChanged id trigger) :
    (s.run store steps).ShowsFor store now f name v := by
  have known := Definition.field?_of_mem h.unique member
  have follows := follows_showsFor h member displayed free now (· = v)
  have self {x : String} (referred : x ∈ g.context f.id name) : x = f.id := by
    by_contra differs
    exact alone x ((h.refers_iff member).2 ⟨differs, referred⟩)
  have edited : ∀ step ∈ steps, ∀ raw, step.2 = .edit f.id raw → ∀ s : Session, s.Fits form g →
      (∃ w, w = v ∧ s.ShowsFor store now f name w) →
        ∃ w, w = v ∧ (s.refresh ⟨store, step.1⟩ f (.user raw)).ShowsFor store now f name w := by
    rintro step inside raw edits s fits ⟨_, rfl, kept⟩
    refine ⟨_, rfl, kept.refresh_self fits member displayed ?_⟩
    rintro (needed | ⟨hide, -⟩)
    · cases needed
    · exact own.elim (fun other => other hide) fun none => none step inside raw edits
  have admits : ∀ o, (o ∈ s.waiting ∨ ∃ step ∈ steps, step.2.origin? = some o) →
      g.Admits (fun changed => (∃ x ∈ g.context f.id name, x ∈ changed) → ∀ w, w = v) f.id o := by
    rintro o - changed turn ⟨x, referred, met⟩
    rw [self referred] at met
    exact absurd met (h.of_turn turn).1
  rcases follows.run known h fits edited admits
    (fun step inside trigger changes => absurd changes (ordinary step inside _ _))
    (Or.inl ⟨v, rfl, shown⟩) with ⟨w, rfl, after⟩ | ⟨o, -, -, x, brought, -⟩
  · exact after
  · obtain ⟨referred, differs⟩ := List.mem_filter.1 brought
    exact absurd (self referred) (of_decide_eq_true differs)

end Runs

/-- **What a property that may read its own field shows.** Once nothing waits, it has the value of
its text on the current values of the other fields and some value of its own; and on the current
value of its own, if it keeps up with the value. -/
theorem own_value_shown {debounce : Nat} {t u : Session} {first : Calendar.Instant}
    {before after : List (Calendar.Instant × Action)} (opened : start form debounce = .ok s)
    (member : f ∈ form.fields) (displayed : name.isDisplayed = true)
    (free : ∀ raw, f.text? name = some raw → Template.ClockFree store raw)
    (reached : u = (s.computeAll ⟨store, first⟩).run store before)
    (ordinary : ∀ step ∈ after, ∀ id trigger, step.2 ≠ .sourceChanged id trigger)
    (ran : t = u.run store after) (idle : t.schedule.isIdle = true) (now : Calendar.Instant) :
    ∃ state, t.state? f.id = some state ∧
      (∃ v, f.Agrees name (t.readsFor f.id v store now) state) ∧
      (u.KeepsUp f name (before = []) after → f.Agrees name (t.reads store now) state) := by
  have h := Graph.represents_of_ok (start_ok opened).2.1
  have first' := (fits_start opened).computeAll ⟨store, first⟩
  have initially := upToDate_computeAll h (fits_start opened) first now member displayed free
  have fits : u.Fits form s.graph := by
    rw [reached]
    exact first'.run store before
  have whole : t = (s.computeAll ⟨store, first⟩).run store (before ++ after) := by
    rw [ran, reached, run_append]
  have some : ∃ v, t.ShowsFor store now f name v := by
    rw [whole] at idle ⊢
    exact first'.showsFor_run h member displayed free
      (first'.exists_showsFor member initially.shown) idle
  obtain ⟨v, state, found, agrees⟩ := some
  refine ⟨state, found, ⟨v, agrees⟩, fun keepsUp => ?_⟩
  have upToDate : t.UpToDate store now f name := by
    rw [ran] at idle ⊢
    refine keepsUp.upToDate (fun none => ?_) fits h member displayed free ordinary idle
    rw [reached, none]
    exact initially
  obtain ⟨state', found', agrees'⟩ := upToDate.shown
  cases found.symm.trans found'
  exact agrees'

/-- A text that is nothing but a reference to the own field reads as the value assumed for it. -/
theorem readsFor_reference {id raw : String} (refers : Template.RefersTo raw id.toList)
    (filled : (Template.Parts.ofText raw.toList).isLiteral = false)
    (bare : (Template.Parts.ofText raw.toList).hasAffixes = false) :
    s.readsFor id v store now raw = .string v := by
  have assumed : Function.update s.value? id (some v) (String.ofList id.toList) = some v := by
    rw [String.ofList_toList]
    exact Function.update_self id (some v) s.value?
  rw [readsFor, Template.valueOfText_reference refers now filled bare, Template.fieldValue, assumed]
  exact congrArg Json.string String.ofList_toList

/-! ## An example -/

def guest : Field := { id := "guest", label := "Guest", kind := .text }

/-- A greeting that is there until it has a text, which it has once there is a guest. -/
def greeting : Field :=
  { id := "greeting", label := "Greeting", kind := .textarea
    content := some (.expression "{{$$.guest}}")
    placeholder := some "{{$$.greeting}}"
    hide := some "{{$$.greeting}}" }

def letter : Definition := { title := "Letter", fields := [guest, greeting] }

theorem guest_mem : guest ∈ letter.fields := List.mem_cons_self

theorem greeting_mem : greeting ∈ letter.fields := List.mem_cons_of_mem _ List.mem_cons_self

theorem start_letter : ∃ s, start letter defaultDebounce = .ok s :=
  exists_ok_of_isSome (by decide +kernel)

theorem refersTo_greeting : Template.RefersTo "{{$$.greeting}}" "greeting".toList where
  whole := by decide +kernel
  alone := by decide +kernel

theorem free_greeting {raw : String} (displayed : name.isDisplayed = true)
    (given : greeting.text? name = some raw) : Template.ClockFree store raw := by
  cases name <;> cases displayed <;> cases given <;> exact refersTo_greeting.clockFree

/-- An edit of the greeting itself has it hidden. -/
theorem own_value_shown_letter : ∃ s, start letter defaultDebounce = .ok s ∧
    ∀ (store : DocumentStore) (t : Session),
      t = (s.computeAll ⟨store, 0⟩).run store [(0, .edit "greeting" "Hello"), (0, .settle)] →
      t.schedule.isIdle = true ∧ ∃ state, t.state? "greeting" = some state ∧
        state.hidden = (t.reads store 0 "{{$$.greeting}}").truthy := by
  obtain ⟨s, started⟩ := start_letter
  refine ⟨s, started, ?_⟩
  intro store t ran
  have h := Graph.represents_of_ok (start_ok started).2.1
  have first := (fits_start started).computeAll ⟨store, 0⟩
  have idle : t.schedule.isIdle = true := by
    rw [ran]
    exact (first.act (.edit "greeting" "Hello")).isIdle_settle ⟨store, 0⟩
  have opened : s.computeAll ⟨store, 0⟩ = (s.computeAll ⟨store, 0⟩).run store [] := rfl
  have free : ∀ raw, greeting.text? .hide = some raw → Template.ClockFree store raw :=
    fun _ given => free_greeting rfl given
  obtain ⟨state, found, -, shown⟩ :=
    own_value_shown started greeting_mem rfl free opened (by simp) ran idle 0
  refine ⟨idle, state, found, (shown ⟨Or.inl rfl, ?_, Or.inl rfl⟩).1⟩
  rw [first.ofForm]
  intro o starts
  rw [eq_of_edit_settle (isIdle_computeAll started _) starts]
  exact h.watches_self greeting_mem

/-- A greeting refers to nothing but itself in what it is computed from after its value. -/
theorem not_refers_greeting {x : String} (displayed : name.isDisplayed = true) :
    ¬ letter.Refers name x greeting := by
  have read : Template.referencedFields "{{$$.greeting}}".toList = ["greeting"] := by
    decide +kernel
  rintro ⟨differs, -, raw, given, mentioned⟩
  rw [← Template.mem_referencedFields] at mentioned
  refine differs (List.mem_singleton.1 (read ▸ ?_))
  cases name <;> cases displayed <;> cases given <;> exact mentioned

theorem refersTo_guest : Template.RefersTo "{{$$.guest}}" "guest".toList where
  whole := by decide +kernel
  alone := by decide +kernel

theorem reads_guest (given : s.value? "guest" = some v) :
    s.reads store now "{{$$.guest}}" = .string v :=
  reads_reference refersTo_guest (by decide +kernel) (by decide +kernel) given

theorem steady_greeting : greeting.Steady store .value := by
  have read : Template.referencedFields "{{$$.guest}}".toList = ["guest"] := by
    decide +kernel
  intro raw given
  cases given
  refine ⟨fun mentioned => ?_, refersTo_guest.clockFree⟩
  rw [← Template.mem_referencedFields, read] at mentioned
  exact absurd mentioned (by decide)

/-- A greeting that is computed from its guest is neither hidden nor its own placeholder: both
stay what they were for an empty one. -/
theorem greeting_lags_letter : ∃ s, start letter defaultDebounce = .ok s ∧
    ∀ (store : DocumentStore) (t : Session),
      t = (s.computeAll ⟨store, 0⟩).run store [(0, .edit "guest" "Ann"), (0, .settle)] →
      t.schedule.isIdle = true ∧ ∃ state, t.state? "greeting" = some state ∧
        state.placeholder = "" ∧ plainText (t.reads store 0 "{{$$.greeting}}") = "Ann" ∧
        state.hidden = false ∧ (t.reads store 0 "{{$$.greeting}}").truthy = true := by
  obtain ⟨s, started⟩ := start_letter
  refine ⟨s, started, ?_⟩
  intro store t ran
  have h := Graph.represents_of_ok (start_ok started).2.1
  have opened := fits_start started
  have first := opened.computeAll ⟨store, 0⟩
  have nothing := isIdle_computeAll started ⟨store, 0⟩
  have idle : t.schedule.isIdle = true := by
    rw [ran]
    exact (first.act (.edit "guest" "Ann")).isIdle_settle ⟨store, 0⟩
  have computed : (s.computeAll ⟨store, 0⟩).Shows store 0 greeting .value :=
    shows_computeAll h opened 0 0 greeting_mem steady_greeting
  -- At first there is no guest, so the greeting is empty.
  have empty : (s.computeAll ⟨store, 0⟩).value? "greeting" = some "" := by
    have unknown : (s.computeAll ⟨store, 0⟩).value? "guest" = some "" := by
      have shown : (s.computeAll ⟨store, 0⟩).Shows store 0 guest .value :=
        shows_computeAll h opened 0 0 guest_mem (by rintro raw ⟨⟩)
      exact (shown.holds rfl {} rfl).value?
    have content : greeting.contentBy ((s.computeAll ⟨store, 0⟩).reads store 0) = .string "" :=
      reads_guest unknown
    have taken : coerce greeting.kind {} (.string "") = .ok "" := rfl
    exact computed.value?_eq rfl (content ▸ taken)
  -- Neither property is computed with the greeting.
  have lags {name : PropertyName} (displayed : name.isDisplayed = true) :
      t.ShowsFor store 0 greeting name "" := by
    have free : ∀ raw, greeting.text? name = some raw → Template.ClockFree store raw :=
      fun _ given => free_greeting displayed given
    have initially := upToDate_computeAll h opened 0 0 greeting_mem displayed free
    rw [ran]
    refine ((showsFor_iff empty).2 initially.shown).run_alone first h greeting_mem displayed free
      (fun _ => not_refers_greeting displayed) (Or.inr ?_) (by simp)
    simp [greeting]
  have given : t.value? "guest" = some "Ann" := by
    rw [ran]
    exact (first.holds_edit_settle h guest_mem nothing rfl fun _ => rfl).value?
  have filled : t.value? "greeting" = some "Ann" := by
    have shown : t.Shows store 0 greeting .value := by
      rw [ran] at idle ⊢
      exact Shows.run first h greeting_mem steady_greeting computed (by simp [greeting]) idle
    have content : greeting.contentBy (t.reads store 0) = .string "Ann" := reads_guest given
    have taken : coerce greeting.kind {} (.string "Ann") = .ok "Ann" := rfl
    exact shown.value?_eq rfl (content ▸ taken)
  have reads : t.reads store 0 "{{$$.greeting}}" = .string "Ann" :=
    reads_reference refersTo_greeting (by decide +kernel) (by decide +kernel) filled
  have assumed : t.readsFor "greeting" "" store 0 "{{$$.greeting}}" = .string "" :=
    readsFor_reference refersTo_greeting (by decide +kernel) (by decide +kernel)
  obtain ⟨state, found, placeholder⟩ : t.ShowsFor store 0 greeting .placeholder "" := lags rfl
  obtain ⟨state', found', hidden, -⟩ : t.ShowsFor store 0 greeting .hide "" := lags rfl
  cases found.symm.trans found'
  refine ⟨idle, state, found, ?_, ?_, ?_, ?_⟩
  · rw [placeholder _ rfl]
    exact congrArg plainText assumed
  · rw [reads]
    rfl
  · rw [hidden]
    exact congrArg Json.truthy assumed
  · rw [reads]
    rfl

end Session

end Formulary.Form
