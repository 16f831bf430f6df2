import Formulary.Proofs.Accord
import Formulary.Proofs.Additions

/-!
# What is saved is what is shown

A form is filled in by keys and waits, one after another, and a key submits it. What the note says
of a field is then what is shown of it, but for a date or a time whose text was refused, or never
given to the form. The latter befalls a text whose field is hidden while a wait has its wave run:
the focus leaves the field without the text being sent (`Console.Deserted`).

* `Console.saved_as_shown`: what a note says of each field, after any keys and waits.
-/

namespace Formulary.Form

open Display (FieldView)

/-- What is typed into this field counts only once the field is left. -/
def Definition.Defers (form : Definition) (id : String) : Prop :=
  ∃ f ∈ form.fields, f.id = id ∧ f.isDeferred = true

/-- A field is shown with its first value. -/
theorem accords_created (f : Field) : Accords (fun _ => False)
    ((Session.opening f).foldl FieldView.apply (.ofField f)) f (FieldState.created f) where
  id := (Session.mirrors_created f).id
  kind := by
    unfold Session.opening
    dsimp only
    split <;> rfl
  value := Or.inl (Session.mirrors_created f).value

/-- Computes all of a field but its visibility. -/
def Surroundings.refreshContents (s : Surroundings) (f : Field) (change : Change) :
    RefreshM Unit := do
  s.refreshOptions f change
  s.refreshLimits f change
  s.refreshValue f change
  s.refreshPlaceholder f change
  s.refreshDescription f change

/-- What hides a field counts for its value only, and that after all else is computed. -/
theorem Surroundings.run_refresh_hide {s : Surroundings} {f : Field} {change : Change}
    {raw text : String} {p : Progress}
    (same : Template.evaluateText s.env.now s.env.store
        (s.context f .hide ((s.refreshContents f change).run p).2.own) raw =
      Template.evaluateText s.env.now s.env.store
        (s.context f .hide ((s.refreshContents f change).run p).2.own) text) :
    (s.refresh { f with hide := some raw } change).run p =
      (s.refresh { f with hide := some text } change).run p := by
  have last (hide : Option String) : (s.refresh { f with hide := hide } change).run p =
      (s.refreshVisibility { f with hide := hide } change).run
        ((s.refreshContents f change).run p).2 := by
    have parts : s.refresh { f with hide := hide } change = (do
        s.refreshContents f change
        s.refreshVisibility { f with hide := hide } change) := by
      unfold refreshContents
      simp only [bind_assoc]
      rfl
    rw [parts]
    rfl
  rw [last, last]
  generalize ((s.refreshContents f change).run p).2 = q at same ⊢
  have evaluated : (s.evaluateText f .hide raw).run q = (s.evaluateText f .hide text).run q := by
    unfold evaluateText
    rw [StateT.run_bind, StateT.run_bind]
    exact congrArg (fun m : Template.ResolveM Json => (consult m).run q) same
  have hidden : (s.isHidden { f with hide := some raw }).run q =
      (s.isHidden { f with hide := some text }).run q := by
    show (s.evaluateText f .hide raw >>= fun v => pure (Json.truthy v)).run q =
      (s.evaluateText f .hide text >>= fun v => pure (Json.truthy v)).run q
    rw [StateT.run_bind, StateT.run_bind, evaluated]
  have decides (hide : Option String) :
      s.refreshVisibility { f with hide := hide } change =
        if change.isEdit || s.needs f .hide change then
          s.isHidden { f with hide := hide } >>= fun hidden => do
            setOwn { ← own with hidden := hidden, required := f.required && !hidden }
            tell (.visible f.id !hidden)
        else pure () := by
    cases change <;> rfl
  rw [decides, decides]
  split
  · rw [StateT.run_bind, hidden]
    rfl
  · rfl

namespace Session

variable {s : Session} {env : Environment} {f : Field} {change : Change} {raw text : String}
  {origin id trigger : String}

/-- The values by which the visibility of a field is decided. -/
def hideContext (s : Session) (env : Environment) (f : Field) (change : Change) :
    Template.Context :=
  (s.surroundings env).context f .hide (((s.surroundings env).refreshContents f change).run
    ⟨(s.state? f.id).getD (FieldState.created f), [], s.trace⟩).2.own

/-- A field is computed as one that is hidden by the text that hides it in the end. -/
theorem refresh_hide (read : Template.evaluateText env.now env.store (s.hideContext env f change)
      raw = pure (.string text))
    (plain : (Template.Parts.ofText text.toList).isLiteral = true)
    (whole : Script.textValue (Template.Parts.ofText text.toList).affixes = .string text) :
    s.refresh env { f with hide := some raw } change =
      s.refresh env { f with hide := some text } change := by
  have refreshed := Surroundings.run_refresh_hide (s := s.surroundings env) (f := f)
    (p := ⟨(s.state? f.id).getD (FieldState.created f), [], s.trace⟩)
    (read.trans (Template.evaluateText_literal _ plain whole).symm)
  unfold surroundings at refreshed
  have initial (hide : Option String) :
      FieldState.created { f with hide := hide } = FieldState.created f := rfl
  unfold refresh
  dsimp only
  rw [initial (some raw), initial (some text), refreshed]

/-- A field that another one hides is computed as one that the value of the other hides. -/
theorem refresh_hide_reference {name : String} (refers : Template.RefersTo raw name.toList)
    (filled : (Template.Parts.ofText raw.toList).isLiteral = false)
    (bare : (Template.Parts.ofText raw.toList).hasAffixes = false)
    (given : s.hideContext env f change name = some text)
    (plain : (Template.Parts.ofText text.toList).isLiteral = true)
    (whole : Script.textValue (Template.Parts.ofText text.toList).affixes = .string text) :
    s.refresh env { f with hide := some raw } change =
      s.refresh env { f with hide := some text } change := by
  refine refresh_hide ?_ plain whole
  rw [Template.evaluateText_reference refers _ filled bare]
  unfold Template.fieldValue
  rw [String.ofList_toList, String.ofList_toList, given, Option.getD_some]

theorem computeField_hide
    (same : s.refresh env { f with hide := some raw } .initial =
      s.refresh env { f with hide := some text } .initial) :
    s.computeField env { f with hide := some raw } =
      s.computeField env { f with hide := some text } := by
  unfold computeField
  dsimp only
  rw [same]
  rfl

theorem refreshDependent_eq {changed : List String} (known : s.form.field? id = some f)
    (first : ((s.graph.sources id).find? (changed.contains ·)).getD origin = trigger) :
    s.refreshDependent env origin changed id = s.refresh env f (.others changed trigger) := by
  unfold refreshDependent
  rw [known, ← first]

/-- A wave that falls due alone and comes to one field. -/
theorem sleep_eq_refresh {time due : Nat}
    (fires : (s.schedule.advance waveTime time).1 = [⟨due, .started origin⟩])
    (wave : s.graph.wave origin = [[id]]) (sources : s.graph.sources id = [origin])
    (known : s.form.field? id = some f) :
    s.sleep env time =
      ({ s with schedule := (s.schedule.advance waveTime time).2 } : Session).refresh env f
        (.others [origin] origin) := by
  have level : ({ s with schedule := (s.schedule.advance waveTime time).2 } : Session).wave origin =
      ⟨origin, [origin], [[id]]⟩ := by
    unfold Session.wave
    rw [wave]
  have first : ((s.graph.sources id).find? ([origin].contains ·)).getD origin = origin := by
    rw [sources]
    simp
  unfold sleep
  dsimp only
  rw [fires]
  show ({ s with schedule := _ } : Session).spread env [origin] = _
  unfold spread
  rw [List.map_singleton, level]
  show ({ s with schedule := _ } : Session).refreshDependent env origin [origin] id = _
  exact refreshDependent_eq known first

end Session

end Formulary.Form

namespace Formulary.Display

open Form (Accords Definition Field FieldData Session)

namespace FormView

variable {R : FieldView → Field → Prop} {fields : List FieldView} {known : List Field}
  {f : Field}

/-- The field with this id as it is shown. -/
def named? (view : FormView) (id : String) : Option FieldView := view.fields.find? (·.id = id)

theorem find?_of_forall₂ (shown : List.Forall₂ R fields known) (unique : (known.map Field.id).Nodup)
    (named : ∀ v f, R v f → v.id = f.id) (member : f ∈ known) :
    ∃ v, fields.find? (·.id = f.id) = some v ∧ R v f := by
  induction shown with
  | nil => cases member
  | @cons v f' fields known first _ ih =>
    obtain ⟨apart, unique⟩ := List.nodup_cons.1 unique
    rcases List.mem_cons.1 member with rfl | later
    · exact ⟨v, List.find?_cons_of_pos (decide_eq_true (named _ _ first)), first⟩
    · obtain ⟨w, found, related⟩ := ih unique later
      refine ⟨w, ?_, related⟩
      rw [List.find?_cons_of_neg]
      · exact found
      · intro same
        have same : v.id = f.id := of_decide_eq_true same
        rw [← (named _ _ first), same] at apart
        exact apart (List.mem_map_of_mem later)

end FormView

/-! ## Keys and waits -/

/-- What happens to a console. -/
inductive Input where
  | press (k : Key)
  /-- Time passes, in milliseconds. -/
  | wait (time : Nat)
  deriving DecidableEq

/-- The key that submits the form. -/
def Key.submit : Key := ⟨.char 's', true⟩

namespace Console

/-- The console after an input that comes at an instant. -/
def take (c : Console) (step : Calendar.Instant × Input) : Console :=
  match step.2 with
  | .press k => { c with now := step.1 }.press k
  | .wait time => { c with now := step.1 }.wait time

/-- The console after some inputs. -/
def run (c : Console) (inputs : List (Calendar.Instant × Input)) : Console := inputs.foldl take c

/-- The field that has the focus. -/
def focus? (c : Console) : Option String := c.board.form.active?.map FieldView.id

/-- A wait took the focus from the field while the form did not have the text that it showed, and
the field has not had the focus since. -/
inductive Deserted (c₀ : Console) : List (Calendar.Instant × Input) → String → Prop
  | left {inputs : List (Calendar.Instant × Input)} {now : Calendar.Instant} {time : Nat}
    {v : FieldView} (active : (c₀.run inputs).board.form.active? = some v)
    (unsent : (c₀.run inputs).session.value? v.id ≠ some v.value)
    (moved : (c₀.run (inputs ++ [(now, .wait time)])).focus? ≠ some v.id) :
    c₀.Deserted (inputs ++ [(now, .wait time)]) v.id
  | away {inputs : List (Calendar.Instant × Input)} {id : String} (deserted : c₀.Deserted inputs id)
    {step : Calendar.Instant × Input} (elsewhere : (c₀.run (inputs ++ [step])).focus? ≠ some id) :
    c₀.Deserted (inputs ++ [step]) id

/-- The fields that may show a text that the form does not have. -/
def Unsent (c₀ : Console) (form : Definition) (inputs : List (Calendar.Instant × Input))
    (id : String) : Prop :=
  form.Defers id ∧ ((c₀.run inputs).focus? = some id ∨ c₀.Deserted inputs id)

variable {c c₀ d : Console} {form : Definition} {E : String → Prop} {v : FieldView} {debounce : Nat}
  {vault : Vault} {tree : FileTree} {config : Option String} {destination : Destination}
  {now start : Calendar.Instant} {inputs : List (Calendar.Instant × Input)}

theorem run_snoc (step : Calendar.Instant × Input) :
    c.run (inputs ++ [step]) = (c.run inputs).take step := by
  unfold run
  rw [List.foldl_append]
  rfl

theorem focus?_of_active (active : c.board.form.active? = some v) : c.focus? = some v.id := by
  rw [focus?, active]
  rfl

theorem Keeps.focus?_eq (h : c.Keeps form E) : c.focus? = form.ids[c.board.form.focus]? := by
  rw [← h.ids, List.getElem?_map]
  rfl

theorem Keeps.commitsOnLeave_of_defers (h : c.Keeps form E) (unique : form.ids.Nodup)
    (inside : v ∈ c.board.form.fields) (defers : form.Defers v.id) : v.commitsOnLeave = true := by
  obtain ⟨f, member, _, -, accords⟩ := h.field inside
  obtain ⟨f', member', same, deferred⟩ := defers
  cases List.inj_on_of_nodup_map unique member' member (same.trans accords.id)
  show (v.kind = .date || v.kind = .time) = true
  rw [accords.kind]
  exact deferred

theorem Keeps.defers (h : c.Keeps form E) (inside : v ∈ c.board.form.fields)
    (deferred : v.commitsOnLeave = true) : form.Defers v.id := by
  obtain ⟨f, member, _, -, accords⟩ := h.field inside
  refine ⟨f, member, accords.id.symm, ?_⟩
  show (f.kind = .date || f.kind = .time) = true
  rw [← accords.kind]
  exact deferred

/-- A form opens with its first values computed. -/
theorem exists_of_open (opened : open? form debounce vault tree config destination now = .ok c) :
    ∃ session, Session.start form debounce = .ok session ∧ ∃ d : Console,
      d.session = session.computeAll d.environment ∧ d.board.form.fields = [] ∧ c = d.pump := by
  unfold open? at opened
  cases started : Session.start form debounce with
  | error e =>
    rw [started] at opened
    cases opened
  | ok session =>
    rw [started] at opened
    exact ⟨session, rfl, _, rfl, rfl, (Except.ok.inj opened).symm⟩

theorem unique_open (opened : open? form debounce vault tree config destination now = .ok c) :
    form.ids.Nodup := by
  obtain ⟨session, started, -⟩ := exists_of_open opened
  exact (Session.Reached.opened started).unique

/-- When a form opens, every field shows the form's value. -/
theorem keeps_open (opened : open? form debounce vault tree config destination now = .ok c) :
    c.Keeps form fun _ => False := by
  have unique := unique_open opened
  obtain ⟨session, started, d, computed, blank, rfl⟩ := exists_of_open opened
  have preserved := Session.preserved_displays
    (Session.tracked_accords fun _ => False) unique d.board.form []
  refine keeps_pump ?_
  rw [computed]
  exact preserved.computeAll
    (Session.displays_start started unique blank Form.accords_created) _

/-- **One key.** The exceptions are then the field that has the focus, and those from before except
for the field that had it. -/
theorem Keeps.press (h : c.Keeps form E) (unique : form.ids.Nodup)
    (deferred : ∀ i, E i → form.Defers i) (k : Key) : (c.press k).Keeps form fun i =>
      form.Defers i ∧ ((c.press k).focus? = some i ∨ E i ∧ c.focus? ≠ some i) := by
  have idle {d : Console} (kept : d.Keeps form E) (still : d.focus? = c.focus?) :
      d.Keeps form fun i => form.Defers i ∧ (d.focus? = some i ∨ E i ∧ c.focus? ≠ some i) := by
    refine kept.mono fun i exception => ⟨deferred i exception, ?_⟩
    rw [still]
    exact (em _).imp_right fun elsewhere => ⟨exception, elsewhere⟩
  unfold Console.press
  split
  · split
    · exact idle ⟨h.quiet, h.displays⟩ rfl
    · exact idle h rfl
  · split
    · rename_i v active
      have inside : v ∈ c.board.form.fields := List.mem_of_getElem? active
      have focused := focus?_of_active active
      cases lazy : v.commitsOnLeave with
      | false =>
        refine (h.pressIn_plain unique active lazy k).mono fun i exception => ?_
        refine ⟨deferred i exception, Or.inr ⟨exception, ?_⟩⟩
        rw [focused]
        rintro ⟨⟩
        have absurd := h.commitsOnLeave_of_defers unique inside (deferred _ exception)
        exact Bool.false_ne_true (lazy.symm.trans absurd)
      | true =>
        rcases h.pressIn_deferred unique active lazy k with sent | ⟨waits, still⟩
        · refine sent.mono fun i ⟨exception, differs⟩ =>
            ⟨deferred i exception, Or.inr ⟨exception, ?_⟩⟩
          rw [focused]
          exact fun same => differs (Option.some.inj same).symm
        · have same : (c.pressIn v k).focus? = some v.id := by
            rw [waits.focus?_eq, still, ← h.focus?_eq, focused]
          refine waits.mono fun i exception => ?_
          rw [same, focused]
          rcases exception with exception | rfl
          · refine ⟨deferred i exception, ?_⟩
            exact (em _).imp_right fun elsewhere => ⟨exception, elsewhere⟩
          · exact ⟨h.defers inside lazy, Or.inl rfl⟩
    · split
      · exact idle ⟨h.quiet, h.displays⟩ rfl
      · exact idle h rfl

/-- **One wait** makes no exceptions. A field that shows the form's value ceases to be one. -/
theorem Keeps.wait_active (h : c.Keeps form E) (unique : form.ids.Nodup) (time : Nat) :
    (c.wait time).Keeps form fun i => E i ∧
      ∀ v, c.board.form.active? = some v → v.id = i → c.session.value? v.id ≠ some v.value := by
  cases active : c.board.form.active? with
  | none =>
    refine (h.wait unique time).mono fun i exception => ⟨exception, ?_⟩
    rintro v ⟨⟩
  | some v =>
    by_cases agrees : c.session.value? v.id = some v.value
    · have inside : v ∈ c.board.form.fields := List.mem_of_getElem? active
      have waited := (h.except unique inside agrees).wait unique time
      refine waited.mono fun i ⟨exception, differs⟩ => ⟨exception, ?_⟩
      rintro _ ⟨⟩ same
      exact absurd same.symm differs
    · refine (h.wait unique time).mono fun i exception => ⟨exception, ?_⟩
      rintro _ ⟨⟩ -
      exact agrees

/-- **All inputs.** A field shows the form's value or a text that it refuses, unless it is a date or
a time that has the focus or was deserted. -/
theorem keeps_run (opened : open? form debounce vault tree config destination start = .ok c₀)
    (inputs : List (Calendar.Instant × Input)) :
    (c₀.run inputs).Keeps form (c₀.Unsent form inputs) := by
  have unique := unique_open opened
  induction inputs using List.reverseRecOn with
  | nil => exact (keeps_open opened).mono fun _ => False.elim
  | append_singleton inputs step ih =>
    have away {i : String} (unsent : c₀.Unsent form inputs i)
        (left : (c₀.run inputs).focus? = some i → (c₀.run (inputs ++ [step])).focus? ≠ some i →
          c₀.Deserted (inputs ++ [step]) i) : c₀.Unsent form (inputs ++ [step]) i := by
      refine ⟨unsent.1, (em _).imp_right fun elsewhere => ?_⟩
      exact unsent.2.elim (fun focused => left focused elsewhere) fun deserted =>
        deserted.away elsewhere
    obtain ⟨now, input⟩ := step
    have ran : c₀.run (inputs ++ [(now, input)]) = (c₀.run inputs).take (now, input) :=
      run_snoc (now, input)
    have ready : ({ c₀.run inputs with now := now } : Console).Keeps form
        (c₀.Unsent form inputs) := ⟨ih.quiet, ih.displays⟩
    cases input with
    | press k =>
      have pressed := ready.press unique (fun i unsent => unsent.1) k
      rw [ran]
      refine pressed.mono fun i ⟨deferred, focused⟩ => ?_
      rcases focused with focused | ⟨unsent, elsewhere⟩
      · refine ⟨deferred, Or.inl ?_⟩
        rw [ran]
        exact focused
      · exact away unsent fun focused => absurd focused elsewhere
    | wait time =>
      rw [ran]
      refine (ready.wait_active unique time).mono fun i ⟨unsent, differs⟩ => ?_
      refine away unsent fun focused elsewhere => ?_
      obtain ⟨v, active, rfl⟩ := Option.map_eq_some_iff.1 focused
      exact .left active (differs v active rfl) elsewhere

/-! ## Saving -/

theorem vault_commit (c : Console) : c.commit.vault = c.vault ∧ c.commit.tree = c.tree := by
  have edited (id value : String) : (c.edit id value).vault = c.vault ∧
      (c.edit id value).tree = c.tree := by
    unfold Console.edit
    split <;> exact ⟨rfl, rfl⟩
  unfold commit
  split
  · exact ⟨rfl, rfl⟩
  · split
    · exact edited _ _
    · exact ⟨rfl, rfl⟩

/-- Delivering a form adds a note with its text, or changes no file. -/
theorem files_deliver (c : Console) (note : Form.Submission) :
    c.vault.files (c.deliver note).tree = c.vault.files c.tree ∨ ∃ path,
      c.vault.files (c.deliver note).tree = c.vault.files c.tree ++ [(path, note.frontMatter)] := by
  unfold deliver
  cases c.destination with
  | note =>
    dsimp only
    have created := Vault.files_create c.vault note.fileName note.frontMatter c.tree
    generalize (c.vault.create note.fileName note.frontMatter).run c.tree = made at created ⊢
    obtain ⟨e | path, tree⟩ := made
    · rcases created with ⟨_, _, absurd, -⟩ | ⟨-, same⟩
      · cases absurd
      · exact Or.inl same
    · rcases created with ⟨_, name, -, added⟩ | ⟨⟨e, absurd⟩, -⟩
      · exact Or.inr ⟨name, added⟩
      · cases absurd
  | storedForm =>
    dsimp only
    split <;> exact Or.inl rfl

theorem session_deliver (c : Console) (note : Form.Submission) :
    (c.deliver note).session = c.session := by
  unfold deliver
  cases c.destination with
  | note =>
    dsimp only
    rcases (c.vault.create note.fileName note.frontMatter).run c.tree with ⟨e | path, tree⟩ <;> rfl
  | storedForm =>
    dsimp only
    cases c.addField <;> rfl

/-- Submitting adds a note with the values that the form has then, or changes no file. -/
theorem files_submit (c : Console) : c.vault.files c.submit.tree = c.vault.files c.tree ∨
    ∃ path, c.vault.files c.submit.tree =
      c.vault.files c.tree ++ [(path, Form.frontMatter c.submit.session.data)] := by
  unfold submit
  dsimp only
  cases submitted : (c.session.submit c.environment).1 with
  | error e => exact Or.inl rfl
  | ok note =>
    dsimp only
    obtain ⟨trace, shape⟩ := Session.submit_snd c.session c.environment
    obtain ⟨data, text⟩ := Session.submit_ok submitted
    let told := ({ c with session := (c.session.submit c.environment).2 } : Console).pump
    have values : told.session.data = note.data := by
      rw [data]
      show (c.session.submit c.environment).2.data = _
      rw [shape]
      rfl
    show told.vault.files (told.deliver note).tree = told.vault.files told.tree ∨ _
    rw [session_deliver, values, ← text]
    exact files_deliver told note

/-- A key that saves a note is taken by a field. -/
theorem press_submit_of_files
    (saved : c.vault.files (c.press .submit).tree ≠ c.vault.files c.tree) :
    ∃ v, c.board.form.active? = some v ∧ c.press .submit = c.commit.submit := by
  unfold press at saved ⊢
  split at saved
  · exact (saved rfl).elim
  · rename_i calm
    rw [if_neg calm]
    cases active : c.board.form.active? with
    | none =>
      rw [active] at saved
      exact (saved rfl).elim
    | some v => exact ⟨v, rfl, rfl⟩

/-- When the text of the field that has the focus is given to the form, this field is no exception
any more. -/
theorem Keeps.commit_active (h : c.Keeps form E) (unique : form.ids.Nodup)
    (deferred : ∀ i, E i → form.Defers i) (active : c.board.form.active? = some v) :
    c.commit.Keeps form fun i => E i ∧ c.focus? ≠ some i := by
  have inside : v ∈ c.board.form.fields := List.mem_of_getElem? active
  rw [focus?_of_active active]
  cases lazy : v.commitsOnLeave with
  | false =>
    rw [commit_plain active lazy]
    refine h.mono fun i exception => ⟨exception, ?_⟩
    rintro ⟨⟩
    have absurd := h.commitsOnLeave_of_defers unique inside (deferred _ exception)
    exact Bool.false_ne_true (lazy.symm.trans absurd)
  | true =>
    refine (h.commit unique active lazy).mono fun i ⟨exception, differs⟩ => ⟨exception, ?_⟩
    exact fun same => differs (Option.some.inj same).symm

/-- The line of a note is about the field, and its value is the one that is shown of it, unless the
field is a date or a time, and refuses what is shown or is one of the exceptions. -/
structure AsShown (view : FormView) (E : String → Prop) (line : FieldData) (f : Field) : Prop where
  id : line.id = f.id
  kind : line.kind = f.kind
  value : ∃ v, view.named? f.id = some v ∧
    (line.value = v.value ∨ f.isDeferred = true ∧ (f.Refuses v.value ∨ E f.id))

/-- **The submitting key.** It saves each field as it is then shown, but for exceptions that do not
have the focus. -/
theorem Keeps.press_submit (h : c.Keeps form E) (unique : form.ids.Nodup)
    (deferred : ∀ i, E i → form.Defers i)
    (saved : c.vault.files (c.press .submit).tree ≠ c.vault.files c.tree) :
    ∃ path lines,
      c.vault.files (c.press .submit).tree =
        c.vault.files c.tree ++ [(path, Form.frontMatter lines)] ∧
      List.Forall₂ (AsShown (c.press .submit).board.form fun i => E i ∧ c.focus? ≠ some i) lines
        (form.fields.filter Field.written) := by
  obtain ⟨v, active, pressed⟩ := press_submit_of_files saved
  have told := (h.commit_active unique deferred active).submit unique
  have alone := vault_commit c
  have files := files_submit c.commit
  rw [alone.1, alone.2, ← pressed] at files
  rw [← pressed] at told
  obtain ⟨path, added⟩ := files.resolve_left saved
  refine ⟨path, _, added, ?_⟩
  unfold Session.data
  rw [told.displays.ofForm, List.forall₂_map_left_iff, List.forall₂_same]
  intro f written
  have member := List.mem_of_mem_filter written
  obtain ⟨w, shown, state, found, accords⟩ := FormView.find?_of_forall₂ told.fields unique
    (fun v f ⟨_, _, accords⟩ => accords.id) member
  refine ⟨rfl, rfl, w, shown, ?_⟩
  rw [Session.value?, found]
  rcases accords.value with same | exception | refuses
  · exact Or.inl same.symm
  · obtain ⟨f', member', alike, waits⟩ := deferred _ exception.1
    cases List.inj_on_of_nodup_map unique member' member alike
    exact Or.inr ⟨waits, Or.inr exception⟩
  · exact Or.inr ⟨refuses.isDeferred, Or.inl refuses⟩

/-- **What is saved is what is shown.** If after any keys and waits the submitting key saves a note,
it has a line for each field that is written, and the value there is the one that is then shown of
the field, unless the field is a date or a time, and either refuses the text that is shown or was
deserted before its text was sent. -/
theorem saved_as_shown
    (opened : open? form debounce vault tree config destination start = .ok c₀)
    (filled : c = c₀.run inputs) (submitted : d = c.take (now, .press .submit))
    (saved : c.vault.files d.tree ≠ c.vault.files c.tree) :
    ∃ path lines,
      c.vault.files d.tree = c.vault.files c.tree ++ [(path, Form.frontMatter lines)] ∧
      List.Forall₂ (AsShown d.board.form (c₀.Deserted inputs)) lines
        (form.fields.filter Field.written) := by
  subst filled submitted
  have kept := keeps_run opened inputs
  have ready : ({ c₀.run inputs with now := now } : Console).Keeps form (c₀.Unsent form inputs) :=
    ⟨kept.quiet, kept.displays⟩
  obtain ⟨path, lines, added, shown⟩ :=
    ready.press_submit (unique_open opened) (fun _ unsent => unsent.1) saved
  refine ⟨path, lines, added, shown.imp fun line f as => ⟨as.id, as.kind, ?_⟩⟩
  obtain ⟨v, named, value⟩ := as.value
  refine ⟨v, named, value.imp_right fun ⟨waits, unlike⟩ => ⟨waits, unlike.imp_right ?_⟩⟩
  exact fun ⟨unsent, elsewhere⟩ => unsent.2.resolve_left elsewhere

/-! ## An example -/

def mode : Field := { id := "mode", label := "Mode", kind := .text }

def day (hide : Option String) : Field :=
  { id := "when", label := "When", kind := .date, hide := hide }

/-- A plan, with a day that may be hidden. -/
def plan (hide : Option String) : Definition :=
  { title := "Plan", outputName := some "plan", fields := [mode, day hide] }

/-- The plan is opened over an empty vault. -/
def openPlan (hide : Option String) : Except Form.Error Console :=
  open? (plan hide) Session.defaultDebounce ⟨"v"⟩ ⟨[(["v"], .folder)], []⟩ none .note 0

/-- The plan with a day that is always shown. -/
def openedPlan : Console := (openPlan none).toOption.get (by decide +kernel)

theorem openPlan_none : openPlan none = .ok openedPlan := Session.eq_ok_get _

/-- A letter for the mode, and then a text for the day. -/
def planInputs (text : String) : List (Calendar.Instant × Input) :=
  (0, .press ⟨.char 'x', false⟩) :: (0, .press ⟨.tab, false⟩) ::
    text.toList.map fun x => (0, .press ⟨.char x, false⟩)

/-- A day is typed and saved. -/
theorem saved_as_shown_plan : ∃ c₀ c d : Console, openPlan none = .ok c₀ ∧
    c = c₀.run (planInputs "2024-01-05") ∧ d = c.take (1, .press .submit) ∧
    c.vault.files d.tree ≠ c.vault.files c.tree ∧
    ∃ path lines,
      c.vault.files d.tree = c.vault.files c.tree ++ [(path, Form.frontMatter lines)] ∧
      List.Forall₂ (AsShown d.board.form (c₀.Deserted (planInputs "2024-01-05"))) lines
        [mode, day none] := by
  have saved : (openedPlan.run (planInputs "2024-01-05")).vault.files
      ((openedPlan.run (planInputs "2024-01-05")).take (1, .press .submit)).tree ≠
        (openedPlan.run (planInputs "2024-01-05")).vault.files
          (openedPlan.run (planInputs "2024-01-05")).tree := by
    decide +kernel
  exact ⟨openedPlan, _, _, openPlan_none, rfl, rfl, saved,
    saved_as_shown openPlan_none rfl rfl saved⟩

/-- A text that the day refuses stays on the screen, and the note has the value from before. -/
example :
    let c := openedPlan.run (planInputs "soon")
    let d := c.take (1, .press .submit)
    d.vault.files d.tree = [("plan.md", "---\nmode: \"x\"\nwhen: \n---\n")] ∧
      (d.board.form.named? "when").map FieldView.value = some "soon" := by
  decide +kernel

/-! ## A deserted day -/

theorem refersTo_mode : Template.RefersTo "{{$$.mode}}" "mode".toList where
  whole := by decide +kernel
  alone := by decide +kernel

/-- The day that the mode hides is computed as one that the text of the mode itself hides. -/
theorem refresh_day {s : Session} {env : Form.Environment} {text : String} (change : Form.Change)
    (reads : (s.graph.context "when" .hide).contains "mode" = true)
    (given : s.value? "mode" = some text)
    (plain : (Template.Parts.ofText text.toList).isLiteral = true)
    (whole : Script.textValue (Template.Parts.ofText text.toList).affixes = .string text) :
    s.refresh env (day (some "{{$$.mode}}")) change = s.refresh env (day (some text)) change := by
  have value : s.hideContext env (day none) change "mode" = some text :=
    (if_pos reads).trans ((if_neg (by decide)).trans given)
  exact Session.refresh_hide_reference (f := day none) refersTo_mode (by decide +kernel)
    (by decide +kernel) value plain whole

/-- The plan before anything is computed. -/
def startedPlan : Session :=
  (Session.start (plan (some "{{$$.mode}}")) Session.defaultDebounce).toOption.get
    (by decide +kernel)

theorem start_plan : Session.start (plan (some "{{$$.mode}}")) Session.defaultDebounce =
    .ok startedPlan :=
  Session.eq_ok_get _

/-- Where the plan is opened. -/
def planEnvironment : Form.Environment :=
  ⟨Vault.documents ⟨"v"⟩ ⟨[(["v"], .folder)], []⟩, 0⟩

/-- While the mode is empty it does not hide the day. -/
theorem computeAll_plan : startedPlan.computeAll planEnvironment =
    (startedPlan.computeField planEnvironment mode).computeField planEnvironment
      (day (some "")) := by
  have order : startedPlan.graph.order.filterMap startedPlan.form.field? =
      [mode, day (some "{{$$.mode}}")] := by
    decide +kernel
  unfold Session.computeAll
  rw [order]
  show (startedPlan.computeField planEnvironment mode).computeField planEnvironment
    (day (some "{{$$.mode}}")) = _
  have given : (startedPlan.computeField planEnvironment mode).value? "mode" = some "" := by
    decide +kernel
  unfold Session.computeField at given ⊢
  rw [refresh_day .initial (by decide +kernel) given (by decide +kernel) rfl]
  rfl

/-- The plan with a day that the mode hides. -/
def hidingPlan : Console := pump {
  session :=
    (startedPlan.computeField planEnvironment mode).computeField planEnvironment (day (some ""))
  board := { form := { title := "Plan", button := "Submit" } }
  vault := ⟨"v"⟩
  tree := ⟨[(["v"], .folder)], []⟩
  config := none
  destination := .note
  now := 0 }

theorem openPlan_mode : openPlan (some "{{$$.mode}}") = .ok hidingPlan := by
  unfold openPlan open?
  rw [start_plan]
  show Except.ok (pump { session := startedPlan.computeAll planEnvironment, .. }) = _
  rw [computeAll_plan]
  rfl

/-- The plan is filled in before the wave of the mode comes to the day. -/
def filledPlan : Console := { hidingPlan.run (planInputs "2024-01-05") with now := 0 }

/-- The wave of the mode has been let go. -/
def firedPlan : Session :=
  { filledPlan.session with
    schedule := (filledPlan.session.schedule.advance Session.waveTime 500).2 }

/-- The day has become hidden. -/
def hiddenPlan : Console := pump { filledPlan with
  session := firedPlan.refresh filledPlan.environment (day (some "x")) (.others ["mode"] "mode") }

theorem wait_filledPlan : filledPlan.wait 500 = hiddenPlan := by
  have fires : (filledPlan.session.schedule.advance Session.waveTime 500).1 =
      [⟨400, .started "mode"⟩] := by
    decide +kernel
  have wave : filledPlan.session.graph.wave "mode" = [["when"]] := by
    decide +kernel
  have sources : filledPlan.session.graph.sources "when" = ["mode"] := by
    decide +kernel
  have known : filledPlan.session.form.field? "when" = some (day (some "{{$$.mode}}")) := by
    decide +kernel
  have given : firedPlan.value? "mode" = some "x" := by
    decide +kernel
  have slept : filledPlan.session.sleep filledPlan.environment 500 =
      firedPlan.refresh filledPlan.environment (day (some "{{$$.mode}}"))
        (.others ["mode"] "mode") :=
    Session.sleep_eq_refresh fires wave sources known
  rw [refresh_day _ (by decide +kernel) given (by decide +kernel) rfl] at slept
  unfold wait hiddenPlan
  rw [slept]

/-- **A text that is shown and not saved.** The mode hides the day while a text is typed there: the
focus leaves the day, which goes on to show the text, and the note has no date. -/
theorem not_saved_as_shown_plan : ∃ c₀ c d : Console, openPlan (some "{{$$.mode}}") = .ok c₀ ∧
    c = c₀.run (planInputs "2024-01-05" ++ [(0, .wait 500)]) ∧ d = c.take (0, .press .submit) ∧
    c.vault.files c.tree = [] ∧
    c.vault.files d.tree =
      [("plan.md", Form.frontMatter [⟨"mode", .text, "x"⟩, ⟨"when", .date, ""⟩])] ∧
    (d.board.form.named? "when").map FieldView.value = some "2024-01-05" ∧
    c₀.Deserted (planInputs "2024-01-05" ++ [(0, .wait 500)]) "when" := by
  have waited : hidingPlan.run (planInputs "2024-01-05" ++ [(0, .wait 500)]) = hiddenPlan := by
    rw [run_snoc]
    exact wait_filledPlan
  have deserted : hidingPlan.Deserted (planInputs "2024-01-05" ++ [(0, .wait 500)]) "when" := by
    have active : filledPlan.board.form.active? =
        some { FieldView.ofField (day (some "{{$$.mode}}")) with value := "2024-01-05" } := by
      decide +kernel
    refine .left active (by decide +kernel) ?_
    rw [waited]
    decide +kernel
  refine ⟨hidingPlan, hiddenPlan, _, openPlan_mode, waited.symm, rfl, ?_, ?_, ?_, deserted⟩ <;>
    decide +kernel

end Console

end Formulary.Display
