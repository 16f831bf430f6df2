import Formulary.Display.Console
import Formulary.Proofs.Mirror

/-!
# What is shown while a form is filled in

What is typed into a date or a time is given to the form only once the field is left, and the form
may refuse it. So a console accords with its form but for some fields (`Console.Keeps`): every other
field shows the form's value, or a text that the form refuses. Keys and waits keep this up: typing
into a date or a time adds to the exceptions, and what sends the text takes it out of them.

* `Keeps.wait`, `Keeps.pressIn_plain`, `Keeps.pressIn_deferred`: what one input does to the
  exceptions.
-/

namespace Formulary.Form

open Display (FieldView FormView)

/-! ## Refused texts -/

/-- What is typed into the field counts only once the field is left. -/
def Field.isDeferred (f : Field) : Bool := (FieldView.ofField f).commitsOnLeave

/-- The texts that a field does not take: those that do not fit its kind, and the empty text, which
stands for the content, if there are surroundings in which the content does not fit. -/
inductive Field.Refuses (f : Field) : String → Prop
  | text {text : String} {limits : Limits} {e : CoercionError} (filled : text.isEmpty = false)
    (refused : coerce f.kind limits (.string text) = .error e) : f.Refuses text
  | content {s : Surroundings} {state : FieldState} {e : CoercionError}
    (refused : coerce f.kind state.limits (s.contentOf f state) = .error e) : f.Refuses ""

/-- Only dates and times refuse values. -/
theorem Field.isDeferred_of_refused {f : Field} {limits : Limits} {v : Json} {e : CoercionError}
    (refused : coerce f.kind limits v = .error e) : f.isDeferred = true := by
  unfold coerce at refused
  split at refused
  · cases refused
  · split at refused
    · rename_i date
      show (f.kind = .date || f.kind = .time) = true
      simp [date]
    · rename_i time
      show (f.kind = .date || f.kind = .time) = true
      simp [time]
    all_goals cases refused

theorem Field.Refuses.isDeferred {f : Field} {text : String} (refuses : f.Refuses text) :
    f.isDeferred = true := by
  cases refuses with
  | text _ refused => exact Field.isDeferred_of_refused refused
  | content refused => exact Field.isDeferred_of_refused refused

namespace Surroundings

/-- The value that the user's text stands for is told, unless it is refused. -/
theorem told_refreshValue (s : Surroundings) (f : Field) (raw : String) (state : FieldState)
    (v : FieldView) :
    ((outcome (s.refreshValue f (.user raw)) state).said.foldl FieldView.apply v).value =
      (outcome (s.refreshValue f (.user raw)) state).own.value ∨ f.Refuses raw := by
  have proposal : ∃ candidate, s.proposed f (.user raw) state = some candidate ∧
      ∀ e, coerce f.kind state.limits candidate = .error e → f.Refuses raw := by
    unfold proposed
    dsimp only
    cases filled : raw.isEmpty with
    | true =>
      rw [String.isEmpty_iff.1 filled]
      exact ⟨_, rfl, fun e refused => .content refused⟩
    | false => exact ⟨_, rfl, fun e refused => .text filled refused⟩
  obtain ⟨candidate, proposed, refuses⟩ := proposal
  rw [outcome_refreshValue, proposed]
  dsimp only
  cases taken : coerce f.kind state.limits candidate with
  | ok value => exact Or.inl (told_store f (.user raw) value state v).2
  | error e => exact Or.inr (refuses e taken)

/-- **A text that the user gives is answered with a value, unless it is refused.** -/
theorem told_edit (s : Surroundings) (f : Field) (raw : String) (state : FieldState)
    (v : FieldView) :
    ((outcome (s.refresh f (.user raw)) state).said.foldl FieldView.apply v).value =
      (outcome (s.refresh f (.user raw)) state).own.value ∨ f.Refuses raw := by
  unfold refresh
  rw [outcome_bind (i := f.id) _ fun _ => about_refreshLimits.bind fun _ =>
      about_refreshValue.bind fun _ => faithful_refreshRest.about,
    outcome_bind (i := f.id) _ fun _ => about_refreshValue.bind fun _ => faithful_refreshRest.about,
    outcome_bind (i := f.id) _ fun _ => faithful_refreshRest.about]
  dsimp only
  rw [List.foldl_append, List.foldl_append, List.foldl_append]
  generalize (outcome (s.refreshLimits f (.user raw)) _).own = old
  generalize List.foldl FieldView.apply _ (outcome (s.refreshLimits f (.user raw)) _).said = w
  rcases s.told_refreshValue f raw old w with told | refuses
  · refine Or.inl ?_
    rcases (faithful_refreshRest.heeds _ _).value with later | ⟨shown, kept⟩
    · exact later
    · exact shown.trans (told.trans kept.symm)
  · exact Or.inr refuses

end Surroundings

/-! ## Shown values -/

/-- The field is shown with the form's value, or with a text that it refuses, unless it is one of
the exceptions. -/
structure Accords (E : String → Prop) (v : FieldView) (f : Field) (state : FieldState) : Prop where
  id : v.id = f.id
  kind : v.kind = f.kind
  value : v.value = state.value ∨ E f.id ∨ f.Refuses v.value

variable {E E' : String → Prop} {v w : FieldView} {f : Field} {old new : FieldState}

theorem Accords.heeds (accords : Accords E v f old) (heeds : v.Heeds w old new)
    (named : w.id = f.id) : Accords E w f new := by
  refine ⟨named, heeds.kind.trans accords.kind, ?_⟩
  rcases heeds.value with told | ⟨shown, kept⟩
  · exact Or.inl told
  · rw [shown, kept]
    exact accords.value

theorem Accords.mono (accords : Accords E v f old) (weaker : ∀ i, E i → E' i) :
    Accords E' v f old :=
  ⟨accords.id, accords.kind, accords.value.imp_right (Or.imp_left (weaker _))⟩

namespace Session

theorem tracked_accords (E : String → Prop) : Tracked (Accords E) where
  named := fun _ _ _ accords => accords.id
  refreshed := fun _ _ _ state v accords =>
    accords.heeds (Surroundings.faithful_refresh.heeds state v)
      (FieldView.id_foldl_apply (Surroundings.about_refresh.said state) accords.id)
  marked := fun _ _ _ accords => ⟨accords.id, accords.kind, accords.value⟩

variable {form : Definition} {s : Session} {env : Environment} {view : FormView}
  {shown : List Update} {raw : String}

/-- A field that is given the text it shows, or that takes any text, accords then. -/
theorem Displays.editField (unique : form.ids.Nodup) (member : f ∈ form.fields)
    (h : s.Displays (fun v f' state => Accords E v f' state ∧
      (f'.id = f.id → f'.isDeferred = true → v.value = raw)) form view shown) :
    (s.editField env f raw).Displays (Accords fun i => E i ∧ i ≠ f.id) form view shown := by
  have edited : (s.refresh env f (.user raw)).Displays (Accords fun i => E i ∧ i ≠ f.id) form view
      shown := by
    refine h.refreshTo unique member (fun _ _ _ related => related.1.id)
      (fun v state found ⟨accords, typed⟩ => ?_) fun v f' state differs ⟨accords, _⟩ => ?_
    · rw [computed, found]
      have faithful : Faithful f.id ((s.surroundings env).refresh f (.user raw)) :=
        Surroundings.faithful_refresh
      have named := FieldView.id_foldl_apply (faithful.about.said state) accords.id
      have heeds := faithful.heeds state v
      refine ⟨named, heeds.kind.trans accords.kind, ?_⟩
      rcases (s.surroundings env).told_edit f raw state v with told | refuses
      · exact Or.inl told
      · rcases heeds.value with told | ⟨same, -⟩
        · exact Or.inl told
        · rw [← typed rfl refuses.isDeferred, ← same] at refuses
          exact Or.inr (Or.inr refuses)
    · exact ⟨accords.id, accords.kind, accords.value.imp_right (Or.imp_left fun e => ⟨e, differs⟩)⟩
  have preserved := preserved_displays (tracked_accords fun i => E i ∧ i ≠ f.id) unique view shown
  unfold Session.editField
  split
  · exact preserved.rescheduled _ _ edited
  · exact preserved.spread edited _

end Session

end Formulary.Form

namespace Formulary.Display

open Form (Accords Definition)

/-! ## Focus -/

namespace FormView

variable {view : FormView}

theorem fields_focusFirst (positions : List Nat) :
    (view.focusFirst positions).fields = view.fields := by
  unfold focusFirst
  split <;> rfl

theorem active?_changeActive (change : FieldView → FieldView) :
    (view.changeActive change).active? = view.active?.map change := by
  show (view.fields.modify view.focus change)[view.focus]? = view.fields[view.focus]?.map change
  rw [List.getElem?_modify]
  simp only [if_true]
  rfl

/-- A change of the field that has the focus is for that field. -/
theorem forall₂_changeActive {R S : FieldView → Form.Field → Prop} {known : List Form.Field}
    {change : FieldView → FieldView} (shown : List.Forall₂ R view.fields known)
    (changed : ∀ v f, view.active? = some v → R v f → S (change v) f)
    (kept : ∀ v f, R v f → S v f) :
    List.Forall₂ S (view.changeActive change).fields known := by
  have walk : ∀ (fields : List FieldView) (known : List Form.Field) (i : Nat),
      List.Forall₂ R fields known → (∀ v f, fields[i]? = some v → R v f → S (change v) f) →
      List.Forall₂ S (fields.modify i change) known := by
    intro fields known i shown changed
    induction shown generalizing i with
    | nil => simp
    | @cons v f fields known first others ih =>
      cases i with
      | zero => exact .cons (changed v f rfl first) (others.imp kept)
      | succ i => exact .cons (kept v f first) (ih i changed)
  exact walk view.fields known view.focus shown changed

end FormView

/-! ## What is kept -/

namespace Console

variable {c : Console} {form : Definition} {E E' : String → Prop} {v : FieldView}

/-- The console has told its board all, and each field that is shown accords with the form, but for
exceptions. -/
structure Keeps (c : Console) (form : Definition) (E : String → Prop) : Prop where
  quiet : c.session.updates = []
  displays : c.session.Displays (Accords E) form c.board.form []

theorem Keeps.fields (h : c.Keeps form E) : List.Forall₂
    (fun v f => ∃ state, c.session.state? f.id = some state ∧ Accords E v f state)
    c.board.form.fields form.fields := by
  have fields := h.displays.fields
  rw [h.quiet] at fields
  exact fields

theorem keeps_of_fields (quiet : c.session.updates = []) (ofForm : c.session.form = form)
    (fields : List.Forall₂
      (fun v f => ∃ state, c.session.state? f.id = some state ∧ Accords E v f state)
      c.board.form.fields form.fields) : c.Keeps form E := by
  refine ⟨quiet, ofForm, ?_⟩
  rw [quiet]
  exact fields

theorem Keeps.mono (h : c.Keeps form E) (weaker : ∀ i, E i → E' i) : c.Keeps form E' :=
  keeps_of_fields h.quiet h.displays.ofForm
    (h.fields.imp fun _ _ ⟨state, found, accords⟩ => ⟨state, found, accords.mono weaker⟩)

theorem Keeps.ids (h : c.Keeps form E) : c.board.form.fields.map FieldView.id = form.ids :=
  FormView.ids_of_forall₂ h.fields fun _ _ ⟨_, _, accords⟩ => accords.id

theorem Keeps.eq_of_id (h : c.Keeps form E) (unique : form.ids.Nodup) {w : FieldView}
    (inside : w ∈ c.board.form.fields) (inside' : v ∈ c.board.form.fields) (same : w.id = v.id) :
    w = v := by
  rw [← h.ids] at unique
  exact List.inj_on_of_nodup_map unique inside inside' same

/-- A field that is shown is one of the form's. -/
theorem Keeps.field (h : c.Keeps form E) (inside : v ∈ c.board.form.fields) :
    ∃ f ∈ form.fields, ∃ state, c.session.state? f.id = some state ∧ Accords E v f state := by
  have shown := h.fields
  generalize c.board.form.fields = fields at inside shown
  generalize form.fields = known at shown ⊢
  induction shown with
  | nil => cases inside
  | @cons w f fields known first _ ih =>
    rcases List.mem_cons.1 inside with rfl | later
    · exact ⟨f, List.mem_cons_self, first⟩
    · obtain ⟨f', member, related⟩ := ih later
      exact ⟨f', List.mem_cons_of_mem _ member, related⟩

theorem form_notify (notices : List Notice) (board : Board) :
    (notices.foldl Board.notify board).form = board.form := by
  induction notices generalizing board with
  | nil => rfl
  | cons n notices ih => exact ih (board.notify n)

/-- Telling the board. -/
theorem keeps_pump (displays : c.session.Displays (Accords E) form c.board.form []) :
    c.pump.Keeps form E := by
  refine keeps_of_fields rfl displays.ofForm ?_
  have shown : c.pump.board.form = c.session.updates.foldl FormView.apply c.board.form :=
    form_notify _ _
  rw [shown]
  exact displays.fields

theorem Keeps.moveFocus (h : c.Keeps form E) {move : FormView → FormView}
    (same : ∀ view, (move view).fields = view.fields) : (c.moveFocus move).Keeps form E := by
  refine keeps_of_fields h.quiet h.displays.ofForm ?_
  show List.Forall₂ _ (move c.board.form).fields _
  rw [same]
  exact h.fields

theorem Keeps.wait (h : c.Keeps form E) (unique : form.ids.Nodup) (time : Nat) :
    (c.wait time).Keeps form E := by
  have preserved := Form.Session.preserved_displays (Form.Session.tracked_accords E) unique
    c.board.form []
  exact keeps_pump (c := { c with session := c.session.sleep c.environment time })
    (preserved.act h.displays c.environment (.sleep time))

/-- A field whose text is given to the form accords then. -/
theorem Keeps.edit (h : c.Keeps form E) (unique : form.ids.Nodup)
    (inside : v ∈ c.board.form.fields) (value : String)
    (typed : v.commitsOnLeave = true → v.value = value) :
    (c.edit v.id value).Keeps form fun i => E i ∧ i ≠ v.id := by
  obtain ⟨f, member, _, -, accords⟩ := h.field inside
  have named : v.id = f.id := accords.id
  have taken : c.session.edit? c.environment f.id value =
      .ok (c.session.editField c.environment f value) := by
    unfold Form.Session.edit? Form.Session.field?
    rw [h.displays.ofForm, Definition.field?_of_mem unique member]
    rfl
  have displays : c.session.Displays (fun w f' state => Accords E w f' state ∧
      (f'.id = f.id → f'.isDeferred = true → w.value = value)) form c.board.form [] := by
    refine ⟨h.displays.ofForm, ?_⟩
    rw [h.quiet]
    have both := (List.forall₂_and_left _ _).2 ⟨fun _ among => among, h.fields⟩
    refine both.imp fun w f' ⟨among, state, found, accords'⟩ => ⟨state, found, accords', ?_⟩
    intro same deferred
    have whole := h.eq_of_id unique among inside (accords'.id.trans (same.trans named.symm))
    subst whole
    refine typed ?_
    show (w.kind = .date || w.kind = .time) = true
    rw [accords'.kind]
    exact deferred
  unfold Console.edit
  rw [named, taken]
  exact keeps_pump (c := { c with session := c.session.editField c.environment f value })
    (displays.editField unique member)

/-- A field that shows the form's value is no exception. -/
theorem Keeps.except (h : c.Keeps form E) (unique : form.ids.Nodup)
    (inside : v ∈ c.board.form.fields) (agrees : c.session.value? v.id = some v.value) :
    c.Keeps form fun i => E i ∧ i ≠ v.id := by
  have both := (List.forall₂_and_left _ _).2 ⟨fun _ among => among, h.fields⟩
  refine keeps_of_fields h.quiet h.displays.ofForm (both.imp ?_)
  rintro w f ⟨among, state, found, accords⟩
  refine ⟨state, found, accords.id, accords.kind, ?_⟩
  by_cases same : w.id = v.id
  · have whole := h.eq_of_id unique among inside same
    subst whole
    rw [accords.id, Form.Session.value?, found] at agrees
    exact Or.inl (Option.some.inj agrees).symm
  · rw [accords.id] at same
    exact accords.value.imp_right (Or.imp_left fun e => ⟨e, same⟩)

/-! ## Typing -/

/-- A change of what is typed. -/
structure IsTyping (change : FieldView → FieldView) : Prop where
  id : ∀ v, (change v).id = v.id
  kind : ∀ v, (change v).kind = v.kind

theorem isTyping_push (x : Char) : IsTyping (·.push x) := ⟨fun _ => rfl, fun _ => rfl⟩

theorem isTyping_pop : IsTyping FieldView.pop := ⟨fun _ => rfl, fun _ => rfl⟩

variable {change : FieldView → FieldView}

theorem IsTyping.commitsOnLeave (typing : IsTyping change) (v : FieldView) :
    (change v).commitsOnLeave = v.commitsOnLeave := by
  unfold FieldView.commitsOnLeave
  rw [typing.kind]

theorem Keeps.changeActive (h : c.Keeps form E) (typing : IsTyping change)
    (active : c.board.form.active? = some v) :
    ({ c with board := { c.board with form := c.board.form.changeActive change } } : Console).Keeps
      form fun i => E i ∨ i = v.id := by
  refine keeps_of_fields h.quiet h.displays.ofForm ?_
  refine FormView.forall₂_changeActive h.fields ?_ ?_
  · rintro w f found ⟨state, present, accords⟩
    rw [active] at found
    cases found
    refine ⟨state, present, (typing.id v).trans accords.id, (typing.kind v).trans accords.kind, ?_⟩
    exact Or.inr (Or.inl (Or.inr accords.id.symm))
  · rintro w f ⟨state, present, accords⟩
    exact ⟨state, present, accords.mono fun _ => Or.inl⟩

/-- What is typed into a date or a time waits. -/
theorem Keeps.type_deferred (h : c.Keeps form E) (typing : IsTyping change)
    (active : c.board.form.active? = some v) (deferred : v.commitsOnLeave = true) :
    (c.type change).Keeps form (fun i => E i ∨ i = v.id) ∧
      (c.type change).board.form.focus = c.board.form.focus := by
  have still : c.type change =
      { c with board := { c.board with form := c.board.form.changeActive change } } := by
    unfold Console.type
    dsimp only
    rw [FormView.active?_changeActive, active]
    exact if_pos ((typing.commitsOnLeave v).trans deferred)
  rw [still]
  exact ⟨h.changeActive typing active, rfl⟩

/-- What is typed into any other field is given to the form. -/
theorem Keeps.type_plain (h : c.Keeps form E) (unique : form.ids.Nodup) (typing : IsTyping change)
    (active : c.board.form.active? = some v) (plain : v.commitsOnLeave = false) :
    (c.type change).Keeps form E := by
  have changed := h.changeActive typing active
  have active' : (c.board.form.changeActive change).active? = some (change v) := by
    rw [FormView.active?_changeActive, active]
    rfl
  have unsent := (typing.commitsOnLeave v).trans plain
  have given := changed.edit unique (List.mem_of_getElem? active') (change v).value
    fun deferred => absurd (unsent.symm.trans deferred) Bool.false_ne_true
  unfold Console.type
  dsimp only
  rw [active']
  dsimp only
  rw [unsent, if_neg Bool.false_ne_true]
  refine given.mono fun i ⟨exception, other⟩ => exception.resolve_right fun same => ?_
  exact other (same.trans (typing.id v).symm)

/-! ## Keys -/

theorem commit_plain (active : c.board.form.active? = some v) (plain : v.commitsOnLeave = false) :
    c.commit = c := by
  unfold commit
  rw [active]
  dsimp only
  rw [plain]
  rfl

theorem Keeps.commit (h : c.Keeps form E) (unique : form.ids.Nodup)
    (active : c.board.form.active? = some v) (deferred : v.commitsOnLeave = true) :
    c.commit.Keeps form fun i => E i ∧ i ≠ v.id := by
  have inside : v ∈ c.board.form.fields := List.mem_of_getElem? active
  unfold Console.commit
  rw [active]
  dsimp only
  rw [deferred, Bool.true_and]
  split
  · exact h.edit unique inside _ fun _ => rfl
  · rename_i agrees
    exact h.except unique inside (by simpa using agrees)

theorem Keeps.deliver (h : c.Keeps form E) (note : Form.Submission) :
    (c.deliver note).Keeps form E := by
  unfold Console.deliver
  cases c.destination with
  | note =>
    dsimp only
    rcases (c.vault.create note.fileName note.frontMatter).run c.tree with ⟨e | path, tree⟩ <;>
      exact ⟨h.quiet, h.displays⟩
  | storedForm =>
    dsimp only
    cases c.addField <;> exact ⟨h.quiet, h.displays⟩

theorem Keeps.submit (h : c.Keeps form E) (unique : form.ids.Nodup) : c.submit.Keeps form E := by
  have preserved := Form.Session.preserved_displays (Form.Session.tracked_accords E) unique
    c.board.form []
  have told := keeps_pump (c := { c with session := (c.session.submit c.environment).2 })
    (preserved.submit h.displays c.environment)
  unfold Console.submit
  dsimp only
  split
  · exact told.deliver _
  · exact ⟨told.quiet, told.displays⟩

theorem fields_next (view : FormView) : view.next.fields = view.fields :=
  FormView.fields_focusFirst _

theorem fields_previous (view : FormView) : view.previous.fields = view.fields :=
  FormView.fields_focusFirst _

/-- **A key in a field that is no date and no time** makes no exceptions. -/
theorem Keeps.pressIn_plain (h : c.Keeps form E) (unique : form.ids.Nodup)
    (active : c.board.form.active? = some v) (plain : v.commitsOnLeave = false) (k : Key) :
    (c.pressIn v k).Keeps form E := by
  have inside : v ∈ c.board.form.fields := List.mem_of_getElem? active
  have edited (value : String) : (c.edit v.id value).Keeps form E := by
    refine (h.edit unique inside _ fun deferred => ?_).mono fun _ => And.left
    exact absurd (plain.symm.trans deferred) Bool.false_ne_true
  unfold Console.pressIn
  rw [commit_plain active plain]
  split
  · exact ⟨h.quiet, h.displays⟩
  · exact h.moveFocus fields_next
  · exact h.moveFocus fields_next
  · exact h.moveFocus fields_previous
  · exact h.moveFocus fields_previous
  · split
    · exact edited _
    · exact h
  · split
    · exact edited _
    · exact h
  · rw [plain]
    split
    · exact h.type_plain unique (isTyping_push _) active plain
    · exact h
  · split
    · exact h.submit unique
    · split
      · exact edited _
      · split
        · exact h.type_plain unique (isTyping_push _) active plain
        · exact h
  · split
    · exact h.type_plain unique isTyping_pop active plain
    · exact h
  · exact h

/-- **A key in a date or a time** gives the text to the form, or leaves the focus there. -/
theorem Keeps.pressIn_deferred (h : c.Keeps form E) (unique : form.ids.Nodup)
    (active : c.board.form.active? = some v) (deferred : v.commitsOnLeave = true) (k : Key) :
    ((c.pressIn v k).Keeps form fun i => E i ∧ i ≠ v.id) ∨
      ((c.pressIn v k).Keeps form (fun i => E i ∨ i = v.id) ∧
        (c.pressIn v k).board.form.focus = c.board.form.focus) := by
  have sent := h.commit unique active deferred
  have same : c.Keeps form (fun i => E i ∨ i = v.id) ∧
      c.board.form.focus = c.board.form.focus :=
    ⟨h.mono fun _ => Or.inl, rfl⟩
  have typed {change : FieldView → FieldView} (typing : IsTyping change) :=
    h.type_deferred typing active deferred
  have kind : v.kind = .date ∨ v.kind = .time := by
    simpa [FieldView.commitsOnLeave] using deferred
  have still (forward : Bool) : c.arrowed? v forward = none := by
    unfold arrowed?
    rcases kind with kind | kind <;> rw [kind]
  have single : v.isMultiline = false := by
    unfold FieldView.isMultiline
    rcases kind with kind | kind <;> rw [kind] <;> rfl
  have other : decide (v.kind = .toggle) = false := by
    rcases kind with kind | kind <;> rw [kind] <;> rfl
  unfold Console.pressIn
  split
  · exact Or.inr ⟨⟨same.1.quiet, same.1.displays⟩, rfl⟩
  · exact Or.inl (sent.moveFocus fields_next)
  · exact Or.inl (sent.moveFocus fields_next)
  · exact Or.inl (sent.moveFocus fields_previous)
  · exact Or.inl (sent.moveFocus fields_previous)
  · rw [still]
    exact Or.inr same
  · rw [still]
    exact Or.inr same
  · rw [single, deferred]
    exact Or.inl sent
  · split
    · exact Or.inl (sent.submit unique)
    · rw [other, Bool.and_false]
      split
      · rename_i absurd
        cases absurd
      · split
        · exact Or.inr (typed (isTyping_push _))
        · exact Or.inr same
  · split
    · exact Or.inr (typed isTyping_pop)
    · exact Or.inr same
  · exact Or.inr same

end Console

end Formulary.Display
