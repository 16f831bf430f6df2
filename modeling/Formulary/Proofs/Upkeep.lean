import Formulary.Proofs.Delivery
import Formulary.Proofs.Focus

/-!
# What a console in use keeps up

Whatever is done to a console, its session acts, submits and is emptied for the board, and the view
of the form is told what was taken out, is typed into and has its focus moved. So a fact about
session and view that each of these keeps up (`Kept`) holds of every console in use (`InUse.kept`).

* `InUse.reached`: the session is one that the form comes to.
* `InUse.pictures`: every dropdown is shown as it is, and the focus is usable.
* `FormView.Rests.apply`: what is told of other fields leaves the focus.
-/

namespace Formulary.Display

open Form (Definition Field FieldState Session Update)

/-! ## What is seen -/

/-- Nothing is typed into a dropdown. -/
theorem FieldView.acceptsText_of_dropdown {v : FieldView} (dropdown : v.kind.isDropdown = true) :
    v.acceptsText = false := by
  unfold acceptsText
  cases kind : v.kind with
  | dropdown options => rfl
  | _ => exact absurd dropdown (by rw [kind]; exact Bool.false_ne_true)

namespace FormView

variable {f g : FormView}

theorem isVisible_eq (f : FormView) (i : Nat) :
    f.isVisible i = (f.fields.map FieldView.visible)[i]?.any id := by
  rw [isVisible, field?, List.getElem?_map, Option.any_map]
  rfl

/-- Whether the focus is usable depends on where it is and on what is visible. -/
theorem Usable.of_visible (usable : f.Usable) (focus : g.focus = f.focus)
    (same : g.fields.map FieldView.visible = f.fields.map FieldView.visible) : g.Usable := by
  have length : g.fields.length = f.fields.length := by
    simpa using congrArg List.length same
  have visible (i : Nat) : g.isVisible i = f.isVisible i := by
    rw [isVisible_eq, isVisible_eq, same]
  refine ⟨fun filled => ?_, fun i seen => ?_⟩
  · rw [focus, length]
    refine usable.inside fun none => filled ?_
    rw [none, List.length_nil] at length
    exact List.length_eq_zero_iff.1 length
  · rw [focus, visible]
    exact usable.visible i (visible i ▸ seen)

theorem visible_modify {fields : List FieldView} {i : Nat} {change : FieldView → FieldView}
    (same : ∀ v, (change v).visible = v.visible) :
    (fields.modify i change).map FieldView.visible = fields.map FieldView.visible := by
  induction fields generalizing i with
  | nil => rw [List.modify_nil]
  | cons v fields ih =>
    cases i with
    | zero => rw [List.modify_zero_cons, List.map_cons, List.map_cons, same]
    | succ i => rw [List.modify_succ_cons, List.map_cons, List.map_cons, ih]

theorem Usable.foldl_apply {us : List Update} {ids : List String} (usable : f.Usable)
    (shown : f.fields.map FieldView.id = ids) (known : ∀ u ∈ us, u.id ∈ ids) :
    (us.foldl FormView.apply f).Usable := by
  induction us generalizing f with
  | nil => exact usable
  | cons u us ih =>
    have first := known u List.mem_cons_self
    rw [← shown] at first
    refine ih (usable.apply fun field rendered => ?_) ?_
      fun u later => known u (List.mem_cons_of_mem _ later)
    · rw [rendered] at first
      exact first
    · rw [fields_apply first, ids_changeField fun v named => FieldView.id_apply rfl named, shown]

/-! ### Where the focus rests -/

variable {fields : List FieldView} {i : Nat} {id : String} {v : FieldView} {u : Update}
  {us : List Update} {change : FieldView → FieldView}

theorem visible_changeField (same : ∀ v, (change v).visible = v.visible) :
    (changeField id change fields).map FieldView.visible = fields.map FieldView.visible := by
  induction fields with
  | nil => rfl
  | cons v fields ih =>
    rw [changeField]
    split
    · rw [List.map_cons, List.map_cons, same]
    · rw [List.map_cons, List.map_cons, ih]

theorem getElem?_changeField_of_ne (here : fields[i]? = some v) (differs : v.id ≠ id) :
    (changeField id change fields)[i]? = some v := by
  induction fields generalizing i with
  | nil => cases here
  | cons w fields ih =>
    rw [changeField]
    cases i with
    | zero =>
      cases here
      rw [if_neg differs]
      rfl
    | succ i =>
      split
      · exact here
      · exact ih here

theorem getElem?_changeField_self (unique : (fields.map FieldView.id).Nodup)
    (here : fields[i]? = some v) : (changeField v.id change fields)[i]? = some (change v) := by
  induction fields generalizing i with
  | nil => cases here
  | cons w fields ih =>
    obtain ⟨apart, unique⟩ := List.nodup_cons.1 unique
    rw [changeField]
    cases i with
    | zero =>
      cases here
      rw [if_pos rfl]
      rfl
    | succ i =>
      have later : v.id ∈ fields.map FieldView.id :=
        List.mem_map_of_mem (List.mem_of_getElem? here)
      rw [if_neg fun same : w.id = v.id => apart (same ▸ later)]
      exact ih unique here

theorem Usable.keepFocusVisible (usable : f.Usable) : f.keepFocusVisible = f := by
  unfold FormView.keepFocusVisible
  split
  · rfl
  · rename_i hidden
    unfold next FormView.focusFirst
    split
    · rename_i i found
      exact absurd (usable.visible i (List.find?_some found)) hidden
    · rfl

/-- The view after a field was told something, before the focus is looked after. -/
def told (f : FormView) (u : Update) : FormView :=
  { f with fields := changeField u.id (·.apply u) f.fields }

theorem active?_told (unique : (f.fields.map FieldView.id).Nodup) (active : f.active? = some v)
    (named : u.id = v.id) : (f.told u).active? = some (v.apply u) := by
  show (changeField u.id (·.apply u) f.fields)[f.focus]? = some (v.apply u)
  rw [named]
  exact getElem?_changeField_self unique active

/-- A visible field has the focus. -/
def Rests (f : FormView) (id : String) : Prop :=
  ∃ v, f.active? = some v ∧ v.id = id ∧ v.visible = true

theorem Rests.keepFocusVisible (rests : f.Rests id) : f.keepFocusVisible = f := by
  obtain ⟨v, active, -, visible⟩ := rests
  refine if_pos ?_
  show f.active?.any FieldView.visible = true
  rw [active]
  exact visible

/-- What is told of other fields leaves the focus. -/
theorem Rests.apply (rests : f.Rests id) (other : u.id ≠ id) : (f.apply u).Rests id := by
  obtain ⟨v, active, named, visible⟩ := rests
  have told : (f.told u).Rests id := by
    refine ⟨v, getElem?_changeField_of_ne active ?_, named, visible⟩
    rw [named]
    exact Ne.symm other
  have settled : (f.told u).keepFocusVisible.Rests id := by
    rw [told.keepFocusVisible]
    exact told
  cases u with
  | render field =>
    unfold FormView.apply
    dsimp only
    split
    · exact settled
    · have within := (List.getElem?_eq_some_iff.1 active).1
      exact ⟨v, (List.getElem?_append_left within).trans active, named, visible⟩
  | _ => exact settled

theorem Rests.foldl_apply (rests : f.Rests id) (others : ∀ u ∈ us, u.id ≠ id) :
    (us.foldl FormView.apply f).Rests id := by
  induction us generalizing f with
  | nil => exact rests
  | cons u us ih =>
    exact ih (rests.apply (others u List.mem_cons_self)) fun u later =>
      others u (List.mem_cons_of_mem _ later)

/-- The focus rests on a field that is told a value and then that it is visible. If it was hidden
before, there was no visible field to which the focus could go. -/
theorem Usable.rests_told (usable : f.Usable) (unique : (f.fields.map FieldView.id).Nodup)
    (active : f.active? = some v) (value : String) :
    ((f.apply (.value v.id value)).apply (.visible v.id true)).Rests v.id := by
  let valued : FormView := f.told (.value v.id value)
  have still : valued.Usable := usable.of_visible rfl (visible_changeField fun _ => rfl)
  have first : f.apply (.value v.id value) = valued := still.keepFocusVisible
  have ids : valued.fields.map FieldView.id = f.fields.map FieldView.id :=
    ids_changeField fun _ named => named
  have focused : valued.active? = some (v.apply (.value v.id value)) :=
    active?_told unique active rfl
  have seen : (valued.told (.visible v.id true)).Rests v.id :=
    ⟨_, active?_told (ids ▸ unique) focused rfl, rfl, rfl⟩
  rw [first]
  show (valued.told (.visible v.id true)).keepFocusVisible.Rests v.id
  rw [seen.keepFocusVisible]
  exact seen

end FormView

/-! ## Consoles in use -/

/-- A fact about a session and the view that shows its form which all that is done to a console
keeps up. -/
structure Kept (P : Session → FormView → Prop) : Prop where
  acted : ∀ s view env a, P s view → P (s.act env a) view
  submitted : ∀ s view env, P s view → P (s.submit env).2 view
  drained : ∀ s view, P s view → P s.drain.2.2 (s.updates.foldl FormView.apply view)
  moved : ∀ s view positions, s.updates = [] → P s view → P s (view.focusFirst positions)
  typed : ∀ s view v change, s.updates = [] → view.active? = some v → v.acceptsText = true →
    Console.IsTyping change → (∀ w, (change w).visible = w.visible) → P s view →
      P s (view.changeActive change)

namespace Console

variable {c : Console} {form : Definition} {P : Session → FormView → Prop} {v : FieldView}
  {change : FieldView → FieldView}

/-- The board has been told everything, and the fact holds of what it shows. -/
structure Settled (P : Session → FormView → Prop) (c : Console) : Prop where
  quiet : c.session.updates = []
  holds : P c.session c.board.form

theorem Settled.with (settled : c.Settled P) {d : Console} (session : d.session = c.session)
    (view : d.board.form = c.board.form) : d.Settled P :=
  ⟨session ▸ settled.quiet, session ▸ view ▸ settled.holds⟩

end Console

namespace Kept

variable {c : Console} {form : Definition} {P : Session → FormView → Prop} {v : FieldView}
  {change : FieldView → FieldView} (kept : Kept P)

include kept

theorem pump (holds : P c.session c.board.form) : c.pump.Settled P := by
  refine ⟨rfl, ?_⟩
  have shown : c.pump.board.form = c.session.updates.foldl FormView.apply c.board.form :=
    Console.form_notify _ _
  rw [shown]
  exact kept.drained c.session c.board.form holds

theorem edit (settled : c.Settled P) (id value : String) : (c.edit id value).Settled P := by
  have acts := kept.acted c.session c.board.form c.environment (.edit id value) settled.holds
  unfold Console.edit
  unfold Form.Session.act at acts
  dsimp only at acts
  cases edited : c.session.edit? c.environment id value with
  | error e => exact kept.pump (c := c.addError e.message) settled.holds
  | ok session =>
    rw [edited] at acts
    exact kept.pump (c := { c with session := session }) acts

theorem moveFocus (settled : c.Settled P) {move : FormView → FormView}
    (moves : ∃ positions, move c.board.form = c.board.form.focusFirst positions) :
    (c.moveFocus move).Settled P := by
  obtain ⟨positions, same⟩ := moves
  refine ⟨settled.quiet, ?_⟩
  show P c.session (move c.board.form)
  rw [same]
  exact kept.moved _ _ positions settled.quiet settled.holds

theorem type (settled : c.Settled P) (active : c.board.form.active? = some v)
    (text : v.acceptsText = true) (typing : Console.IsTyping change)
    (seen : ∀ w, (change w).visible = w.visible) : (c.type change).Settled P := by
  have changed : ({ c with board := { c.board with form := c.board.form.changeActive change } } :
      Console).Settled P :=
    ⟨settled.quiet, kept.typed _ _ v change settled.quiet active text typing seen settled.holds⟩
  unfold Console.type
  dsimp only
  split
  · exact changed
  · split
    · exact changed
    · exact kept.edit changed _ _

theorem commit (settled : c.Settled P) : c.commit.Settled P := by
  unfold Console.commit
  split
  · exact settled
  · split
    · exact kept.edit settled _ _
    · exact settled

omit kept in
theorem deliver (settled : c.Settled P) (note : Form.Submission) :
    (c.deliver note).Settled P := by
  unfold Console.deliver
  cases c.destination with
  | note =>
    dsimp only
    rcases (c.vault.create note.fileName note.frontMatter).run c.tree with ⟨e | path, tree⟩ <;>
      exact ⟨settled.quiet, settled.holds⟩
  | storedForm =>
    dsimp only
    cases c.addField <;> exact ⟨settled.quiet, settled.holds⟩

theorem submit (settled : c.Settled P) : c.submit.Settled P := by
  have told := kept.pump (c := { c with session := (c.session.submit c.environment).2 })
    (kept.submitted _ _ _ settled.holds)
  unfold Console.submit
  dsimp only
  split
  · exact deliver told _
  · exact told.with rfl rfl

theorem pressIn (settled : c.Settled P) (active : c.board.form.active? = some v) (k : Key) :
    (c.pressIn v k).Settled P := by
  unfold Console.pressIn
  split
  · exact settled.with rfl rfl
  · exact kept.moveFocus (kept.commit settled) ⟨_, rfl⟩
  · exact kept.moveFocus (kept.commit settled) ⟨_, rfl⟩
  · exact kept.moveFocus (kept.commit settled) ⟨_, rfl⟩
  · exact kept.moveFocus (kept.commit settled) ⟨_, rfl⟩
  · split
    · exact kept.edit settled _ _
    · exact settled
  · split
    · exact kept.edit settled _ _
    · exact settled
  · split
    · rename_i multiline
      have text : v.acceptsText = true := by
        rw [FieldView.acceptsText, of_decide_eq_true multiline]
      exact kept.type settled active text (Console.isTyping_push _) fun _ => rfl
    · split
      · exact kept.commit settled
      · exact settled
  · split
    · exact kept.submit (kept.commit settled)
    · split
      · exact kept.edit settled _ _
      · split
        · rename_i text
          exact kept.type settled active text (Console.isTyping_push _) fun _ => rfl
        · exact settled
  · split
    · rename_i text
      exact kept.type settled active text Console.isTyping_pop fun _ => rfl
    · exact settled
  · exact settled

theorem press (settled : c.Settled P) (k : Key) : (c.press k).Settled P := by
  unfold Console.press
  split
  · split
    · exact settled.with rfl rfl
    · exact settled
  · split
    · rename_i v active
      exact kept.pressIn settled active k
    · split
      · exact settled.with rfl rfl
      · exact settled

theorem wait (settled : c.Settled P) (time : Nat) : (c.wait time).Settled P :=
  kept.pump (c := { c with session := c.session.sleep c.environment time })
    (kept.acted _ _ _ (.sleep time) settled.holds)

theorem take (settled : c.Settled P) (step : Calendar.Instant × Input) :
    (c.take step).Settled P := by
  obtain ⟨now, input⟩ := step
  have ready : ({ c with now := now } : Console).Settled P := settled.with rfl rfl
  cases input with
  | press k => exact kept.press ready k
  | wait time => exact kept.wait ready time

end Kept

namespace Console

variable {c : Console} {form : Definition} {P : Session → FormView → Prop} {v : FieldView}
  {debounce : Nat} {vault : Vault} {tree : FileTree} {config : Option String}
  {destination : Destination} {now : Calendar.Instant}

/-- **What is kept up holds of every console in use**, if it holds when a form has been opened and
all its fields have been computed for the first time. -/
theorem InUse.kept (used : InUse form c) (kept : Kept P)
    (first : ∀ debounce s env, Session.start form debounce = .ok s →
      P (s.computeAll env) { title := form.title, button := form.button }) : c.Settled P := by
  induction used with
  | @opened debounce vault tree config destination now c opened =>
    unfold open? at opened
    cases started : Session.start form debounce with
    | error e =>
      rw [started] at opened
      cases opened
    | ok session =>
      rw [started] at opened
      cases opened
      exact kept.pump (first debounce session _ started)
  | taken _ step ih => exact kept.take ih step
  | disk _ _ _ _ ih => exact ih.with rfl rfl

/-- **The session of a console in use is one that the form comes to.** -/
theorem InUse.reached (used : InUse form c) : ∃ debounce, c.session.Reached form debounce := by
  have kept : Kept fun s _ => ∃ debounce, s.Reached form debounce := {
    acted := fun _ _ env a ⟨debounce, reached⟩ => ⟨debounce, .acted env a reached⟩
    submitted := fun _ _ env ⟨debounce, reached⟩ => ⟨debounce, .submitted env reached⟩
    drained := fun _ _ ⟨debounce, reached⟩ => ⟨debounce, .drained reached⟩
    moved := fun _ _ _ _ reached => reached
    typed := fun _ _ _ _ _ _ _ _ _ reached => reached }
  exact (used.kept kept fun debounce s env started =>
    ⟨debounce, .allComputed env (.opened started)⟩).holds

end Console

end Formulary.Display

/-! ## Dropdowns and the focus -/

namespace Formulary.Form

open Display (FieldView FormView)

/-- The field is shown under its name and as of its kind, and just as it is if it is a dropdown. -/
structure Depicts (v : FieldView) (f : Field) (state : FieldState) : Prop where
  id : v.id = f.id
  kind : v.kind = f.kind
  dropdown : f.kind.isDropdown = true → v.Mirrors f.id state

theorem depicts_created (f : Field) :
    Depicts ((Session.opening f).foldl FieldView.apply (.ofField f)) f (FieldState.created f) where
  id := (accords_created f).id
  kind := (accords_created f).kind
  dropdown := fun _ => Session.mirrors_created f

namespace Session

variable {s : Session} {form : Definition} {view : FormView}

theorem tracked_depicts : Tracked Depicts where
  named := fun _ _ _ depicts => depicts.id
  refreshed := by
    intro s f change state v depicts
    have faithful : Faithful f.id (s.refresh f change) := Surroundings.faithful_refresh
    exact {
      id := FieldView.id_foldl_apply (faithful.about.said state) depicts.id
      kind := (faithful.heeds state v).kind.trans depicts.kind
      dropdown := fun dropdown => faithful.mirrors state v (depicts.dropdown dropdown) }
  marked := fun _ _ _ depicts =>
    ⟨depicts.id, depicts.kind, fun dropdown => { depicts.dropdown dropdown with }⟩

/-- A view that is told what the session has to tell shows the form, with a usable focus. -/
structure Pictures (s : Session) (form : Definition) (view : FormView) : Prop where
  displays : s.Displays Depicts form view []
  usable : (s.updates.foldl FormView.apply view).Usable

theorem Pictures.ids (h : s.Pictures form view) :
    (s.updates.foldl FormView.apply view).fields.map FieldView.id = form.ids :=
  FormView.ids_of_forall₂ h.displays.fields fun _ _ ⟨_, _, depicts⟩ => depicts.id

theorem preserved_pictures (unique : form.ids.Nodup) (view : FormView) :
    Preserved form fun s => s.Pictures form view := by
  have displays := preserved_displays tracked_depicts unique view []
  exact {
    ofForm := fun _ h => h.displays.ofForm
    refreshed := by
      intro s env f member change h
      refine ⟨displays.refreshed s env f member change h.displays, ?_⟩
      rw [updates_refresh, List.foldl_append]
      refine h.usable.foldl_apply h.ids fun u told => ?_
      rw [said_computed u told]
      exact List.mem_map_of_mem member
    marked := fun s env f member h => ⟨displays.marked s env f member h.displays, h.usable⟩
    rescheduled := fun _ _ h => ⟨⟨h.displays.ofForm, h.displays.fields⟩, h.usable⟩
    recorded := fun _ _ h => ⟨⟨h.displays.ofForm, h.displays.fields⟩, h.usable⟩ }

theorem pictures_start {debounce : Nat} (unique : form.ids.Nodup)
    (started : start form debounce = .ok s) (title button : String) :
    s.Pictures form { title := title, button := button } := by
  have fresh : ({ title := title, button := button } : FormView).Fresh := ⟨rfl, by simp⟩
  refine ⟨displays_start started unique rfl depicts_created, ?_⟩
  rw [updates_start started]
  refine (fresh.foldl_apply fun u told => ?_).usable
  obtain ⟨f, -, opening⟩ := List.mem_flatMap.1 told
  unfold Session.opening at opening
  dsimp only at opening
  rcases List.mem_cons.1 opening with rfl | options
  · rfl
  · split at options
    · cases options
    · rw [List.mem_singleton.1 options]
      rfl

end Session

end Formulary.Form

namespace Formulary.Display

open Form (Definition Depicts Field FieldState Session)

theorem kept_pictures {form : Definition} (unique : form.ids.Nodup) :
    Kept fun s view => s.Pictures form view where
  acted := fun _ view env a h => (Session.preserved_pictures unique view).act h env a
  submitted := fun _ view env h => (Session.preserved_pictures unique view).submit h env
  drained := fun _ _ h => ⟨⟨h.displays.ofForm, h.displays.fields⟩, h.usable⟩
  moved := by
    intro s view positions quiet h
    obtain ⟨⟨ofForm, fields⟩, usable⟩ := h
    rw [quiet] at fields usable
    refine ⟨⟨ofForm, ?_⟩, ?_⟩
    · rw [quiet]
      show List.Forall₂ _ (view.focusFirst positions).fields _
      rw [FormView.fields_focusFirst]
      exact fields
    · rw [quiet]
      exact usable.focusFirst positions
  typed := by
    intro s view v change quiet active text typing seen h
    obtain ⟨⟨ofForm, fields⟩, usable⟩ := h
    rw [quiet] at fields usable
    refine ⟨⟨ofForm, ?_⟩, ?_⟩
    · rw [quiet]
      refine FormView.forall₂_changeActive fields ?_ fun _ _ related => related
      intro w f found related
      obtain ⟨state, present, depicts⟩ := related
      cases active.symm.trans found
      refine ⟨state, present, (typing.id v).trans depicts.id, (typing.kind v).trans depicts.kind,
        fun dropdown => ?_⟩
      rw [← depicts.kind] at dropdown
      exact absurd (text.symm.trans (FieldView.acceptsText_of_dropdown dropdown))
        Bool.false_ne_true.symm
    · rw [quiet]
      exact usable.of_visible rfl (FormView.visible_modify seen)

namespace Console

variable {c : Console} {form : Definition} {v : FieldView} {f : Field} {state : FieldState}

/-- **A console in use shows its form**, with a usable focus. -/
theorem InUse.pictures (used : InUse form c) : c.Settled fun s view => s.Pictures form view :=
  used.kept (kept_pictures used.unique) fun _ _ env started =>
    (Session.preserved_pictures used.unique _).computeAll
      (Session.pictures_start used.unique started _ _) env

theorem InUse.quiet (used : InUse form c) : c.session.updates = [] := used.pictures.quiet

theorem InUse.usable (used : InUse form c) : c.board.form.Usable := by
  have usable := used.pictures.holds.usable
  rwa [used.quiet] at usable

theorem InUse.fields (used : InUse form c) : List.Forall₂
    (fun v f => ∃ state, c.session.state? f.id = some state ∧ Depicts v f state)
    c.board.form.fields form.fields := by
  have fields := used.pictures.holds.displays.fields
  rw [used.quiet] at fields
  exact fields

theorem InUse.ids (used : InUse form c) :
    c.board.form.fields.map FieldView.id = form.ids :=
  FormView.ids_of_forall₂ used.fields fun _ _ ⟨_, _, depicts⟩ => depicts.id

/-- The field that has the focus is one of the form's. -/
theorem InUse.active (used : InUse form c) (active : c.board.form.active? = some v) :
    ∃ f ∈ form.fields, ∃ state, c.session.state? f.id = some state ∧ Depicts v f state := by
  have shown := used.fields
  have inside : v ∈ c.board.form.fields := List.mem_of_getElem? active
  obtain ⟨i, within, rfl⟩ := List.mem_iff_getElem.1 inside
  have among : i < form.fields.length := shown.length_eq ▸ within
  exact ⟨form.fields[i], List.getElem_mem among, shown.get within among⟩

end Console

end Formulary.Display
