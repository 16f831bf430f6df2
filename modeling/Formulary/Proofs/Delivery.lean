import Formulary.Proofs.Confined
import Formulary.Proofs.Saved

/-!
# The submitting key delivers once or not at all

A form that is filled in has a note added for it, or a field to the stored configuration. On the way
the text of the field that has the focus is given to the form, what waits is completed, and the form
is checked; then the note or the field is made, and written. Each of these leaves the disk alone up
to the last one, which comes with what is saved being said (`Delivers`), and each that fails adds an
error (`Refuses`).

* `Console.delivers_once`: the submitting key makes one delivery and no error, or one error and no
  delivery.
-/

namespace Formulary.Display

open Form (Definition)

namespace Console

variable {c d e : Console} {form : Definition} {v : FieldView} {now : Calendar.Instant}

/-! ## Consoles in use -/

/-- A form was opened, and then filled in by keys and waits, while others changed what is on the
disk. -/
inductive InUse (form : Definition) : Console → Prop
  | opened {debounce : Nat} {vault : Vault} {tree : FileTree} {config : Option String}
    {destination : Destination} {now : Calendar.Instant} {c : Console}
    (opened : open? form debounce vault tree config destination now = .ok c) : InUse form c
  | taken {c : Console} (used : InUse form c) (step : Calendar.Instant × Input) :
    InUse form (c.take step)
  | disk {c : Console} (used : InUse form c) (tree : FileTree) (config : Option String)
    (hindrance : Hindrance) :
    InUse form { c with tree := tree, config := config, hindrance := hindrance }

theorem InUse.unique (used : InUse form c) : form.ids.Nodup := by
  induction used with
  | opened opened => exact unique_open opened
  | taken _ _ ih => exact ih
  | disk _ _ _ _ ih => exact ih

/-- A field shows the form's value or a text that it refuses, unless it is a date or a time. -/
theorem InUse.keeps (used : InUse form c) : c.Keeps form form.Defers := by
  induction used with
  | opened opened => exact (keeps_open opened).mono fun _ => False.elim
  | @taken c used step ih =>
    obtain ⟨now, input⟩ := step
    have ready : ({ c with now := now } : Console).Keeps form form.Defers := ⟨ih.quiet, ih.displays⟩
    cases input with
    | press k => exact (ready.press used.unique (fun _ => id) k).mono fun _ => And.left
    | wait time => exact ready.wait used.unique time
  | disk _ _ _ _ ih => exact ⟨ih.quiet, ih.displays⟩

theorem InUse.run (used : InUse form c) (inputs : List (Calendar.Instant × Input)) :
    InUse form (c.run inputs) := by
  induction inputs generalizing c with
  | nil => exact used
  | cons step inputs ih => exact ih (used.taken step)

/-! ## What stays until the delivery -/

/-- The disk, the errors and what was saved last are as before, and where a delivery goes. -/
structure Still (c d : Console) : Prop where
  destination : d.destination = c.destination
  vault : d.vault = c.vault
  tree : d.tree = c.tree
  stored : d.config = c.config ∧ d.hindrance = c.hindrance
  quitting : d.quitting = c.quitting
  errors : d.board.errors = c.board.errors
  saved : d.board.saved = c.board.saved

theorem Still.refl (c : Console) : Still c c := ⟨rfl, rfl, rfl, ⟨rfl, rfl⟩, rfl, rfl, rfl⟩

theorem board_notify (notices : List Notice) (board : Board) :
    (notices.foldl Board.notify board).errors = board.errors ∧
      (notices.foldl Board.notify board).saved = board.saved := by
  induction notices generalizing board with
  | nil => exact ⟨rfl, rfl⟩
  | cons n notices ih => exact ih (board.notify n)

/-- Another session, and what it has to say. -/
theorem still_pump (c : Console) (session : Form.Session) :
    Still c ({ c with session := session } : Console).pump where
  destination := rfl
  vault := rfl
  tree := rfl
  stored := ⟨rfl, rfl⟩
  quitting := rfl
  errors := (board_notify _ _).1
  saved := (board_notify _ _).2

/-- The field that has the focus is one of the form's, so the form takes its text. -/
theorem Keeps.still_commit {E : String → Prop} (h : c.Keeps form E) (unique : form.ids.Nodup) :
    Still c c.commit := by
  unfold Console.commit
  split
  · exact Still.refl c
  · rename_i v active
    split
    · obtain ⟨f, member, _, -, accords⟩ := h.field (List.mem_of_getElem? active)
      have taken : c.session.edit? c.environment v.id v.value =
          .ok (c.session.editField c.environment f v.value) := by
        unfold Form.Session.edit? Form.Session.field?
        rw [h.displays.ofForm, accords.id, Form.Definition.field?_of_mem unique member]
        rfl
      unfold Console.edit
      rw [taken]
      exact still_pump c _
    · exact Still.refl c

/-! ## Delivering -/

/-- A note is added where nothing stood, and said to be saved. -/
structure AddsNote (c d : Console) (path text : String) (l : Location) : Prop where
  goes : c.destination = .note
  place : c.vault.location? path = some l
  free : c.tree.at? l = none
  files : d.tree.text? = Function.update c.tree.text? l (some text)
  config : d.config = c.config
  saved : d.board.saved = some path

/-- A field is added to the stored configuration, and said to be saved. -/
structure AddsField (c d : Console) (old new : Config) (key : String) (field : Form.Field) :
    Prop where
  goes : c.destination = .storedForm
  loaded : c.stored = .ok old
  added : ∃ id, old.addField key field d.now = .ok (new, id)
  files : d.tree = c.tree
  config : d.config = some new.save
  saved : d.board.saved = some (field.label ++ " in " ++ key)

/-- One thing is added to what is on the disk, and there are no further errors. -/
structure Delivers (c d : Console) : Prop where
  once : (∃ path text l, c.AddsNote d path text l) ∨
    ∃ old new key field, c.AddsField d old new key field
  errors : d.board.errors = c.board.errors
  quitting : d.quitting = c.quitting

/-- There is one error more, and nothing was delivered. -/
structure Refuses (c d : Console) : Prop where
  error : ∃ message, d.board.errors = c.board.errors ++ [message]
  files : d.tree.text? = c.tree.text?
  config : d.config = c.config
  saved : d.board.saved = c.board.saved
  quitting : d.quitting = c.quitting

theorem Still.delivers (still : Still c d) (delivers : d.Delivers e) : c.Delivers e where
  once := by
    refine delivers.once.imp ?_ ?_
    · rintro ⟨path, text, l, adds⟩
      refine ⟨path, text, l, still.destination ▸ adds.goes, still.vault ▸ adds.place,
        still.tree ▸ adds.free, still.tree ▸ adds.files, adds.config.trans still.stored.1,
        adds.saved⟩
    · rintro ⟨old, new, key, field, adds⟩
      refine ⟨old, new, key, field, still.destination ▸ adds.goes, ?_, adds.added,
        adds.files.trans still.tree, adds.config, adds.saved⟩
      rw [← adds.loaded]
      unfold Console.stored
      rw [still.stored.1, still.stored.2]
  errors := delivers.errors.trans still.errors
  quitting := delivers.quitting.trans still.quitting

theorem Still.refuses (still : Still c d) (refuses : d.Refuses e) : c.Refuses e where
  error := still.errors ▸ refuses.error
  files := still.tree ▸ refuses.files
  config := refuses.config.trans still.stored.1
  saved := refuses.saved.trans still.saved
  quitting := refuses.quitting.trans still.quitting

theorem refuses_addError (c : Console) (message : String) : c.Refuses (c.addError message) :=
  ⟨⟨message, rfl⟩, rfl, rfl, rfl, rfl⟩

/-- A field is added if it can be made, if there is a configuration that can be read and takes it,
and if that can be written. -/
theorem addField_ok {config : Config} {said : String} (added : c.addField = .ok (config, said)) :
    ∃ field key old id, c.stored = .ok old ∧ old.addField key field c.now = .ok (config, id) ∧
      said = field.label ++ " in " ++ key := by
  unfold addField at added
  dsimp only at added
  cases made : Preset.fieldOfValues c.now c.session.values with
  | error e =>
    rw [made] at added
    cases added
  | ok field =>
    cases loaded : c.stored with
    | error e =>
      rw [made, loaded] at added
      cases added
    | ok old =>
      rw [made, loaded] at added
      cases outcome : old.addField (Preset.targetOf c.session.values) field c.now with
      | error e =>
        dsimp only [Except.mapError, bind, Except.bind] at added
        rw [outcome] at added
        cases added
      | ok result =>
        obtain ⟨new, id⟩ := result
        dsimp only [Except.mapError, bind, Except.bind] at added
        rw [outcome] at added
        dsimp only at added
        split at added
        · cases added
        · cases added
          exact ⟨field, _, old, id, rfl, outcome, rfl⟩

/-- **Delivering a submitted form.** -/
theorem deliver_cases (c : Console) (note : Form.Submission) :
    c.Delivers (c.deliver note) ∨ c.Refuses (c.deliver note) := by
  unfold deliver
  cases goes : c.destination with
  | note =>
    dsimp only
    have created := c.vault.text?_create note.fileName note.frontMatter c.tree
    generalize (c.vault.create note.fileName note.frontMatter).run c.tree = made at created ⊢
    obtain ⟨outcome, tree⟩ := made
    rcases created with ⟨e, failed, kept⟩ | ⟨place, l, made, located, -, free, added⟩
    · cases failed
      exact Or.inr ⟨⟨_, rfl⟩, kept, rfl, rfl, rfl⟩
    · cases made
      exact Or.inl ⟨Or.inl ⟨_, _, l, goes, located, free, added, rfl, rfl⟩, rfl, rfl⟩
  | storedForm =>
    dsimp only
    cases outcome : c.addField with
    | error e => exact Or.inr (refuses_addError c _)
    | ok result =>
      obtain ⟨config, said⟩ := result
      obtain ⟨field, key, old, id, loaded, added, rfl⟩ := addField_ok outcome
      exact Or.inl ⟨Or.inr ⟨old, config, key, field, goes, loaded, ⟨id, added⟩, rfl, rfl, rfl⟩,
        rfl, rfl⟩

theorem submit_cases (c : Console) : c.Delivers c.submit ∨ c.Refuses c.submit := by
  have still := still_pump c (c.session.submit c.environment).2
  unfold submit
  dsimp only
  split
  · exact (deliver_cases _ _).imp still.delivers still.refuses
  · exact Or.inr (still.refuses (refuses_addError _ _))

/-- **The submitting key delivers once or not at all.** In a console in use, with no error waiting
and a field in focus, it adds a note or a field of the configuration, and says so; or it adds an
error, and the files, the configuration and what was saved last stay as they are. -/
theorem delivers_once (used : InUse form c) (calm : c.board.error? = none)
    (focused : c.board.form.active? = some v) (pressed : d = c.take (now, .press .submit)) :
    c.Delivers d ∨ c.Refuses d := by
  let ready : Console := { c with now := now }
  have still : Still c ready.commit := by
    have keeps : ready.Keeps form form.Defers := ⟨used.keeps.quiet, used.keeps.displays⟩
    have kept := keeps.still_commit used.unique
    exact ⟨kept.destination, kept.vault, kept.tree, kept.stored, kept.quitting, kept.errors,
      kept.saved⟩
  have taken : d = ready.commit.submit := by
    rw [pressed]
    show ready.press .submit = _
    unfold press
    rw [if_neg (by rw [show ready.board.error? = none from calm]; decide)]
    rw [show ready.board.form.active? = some v from focused]
    rfl
  rw [taken]
  exact (submit_cases _).imp still.delivers still.refuses

/-- A plan that is filled in is saved once. -/
theorem delivers_once_plan : ∃ (c d : Console) (v : FieldView), InUse (plan none) c ∧
    c.board.error? = none ∧ c.board.form.active? = some v ∧ d = c.take (1, .press .submit) ∧
    (c.Delivers d ∨ c.Refuses d) ∧ d.board.saved = some "plan.md" := by
  have used : InUse (plan none) (openedPlan.run (planInputs "2024-01-05")) :=
    (InUse.opened openPlan_none).run _
  have calm : (openedPlan.run (planInputs "2024-01-05")).board.error? = none := by
    decide +kernel
  obtain ⟨v, focused⟩ := Option.isSome_iff_exists.1
    (show (openedPlan.run (planInputs "2024-01-05")).board.form.active?.isSome = true by
      decide +kernel)
  exact ⟨_, _, v, used, calm, focused, rfl, delivers_once used calm focused rfl, by decide +kernel⟩

end Console

end Formulary.Display
