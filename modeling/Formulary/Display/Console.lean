import Formulary.Config
import Formulary.Display.Board
import Formulary.Display.Key
import Formulary.Form.Submission
import Formulary.Preset
import Formulary.Vault.Basic

/-!
# Filling in a form

A console has a form open over a vault, and shows it on a board. Keys change the fields and submit
the form: then a note is added to the vault, or a field to a form of the configuration. If that
fails the form stays as it is, and an error waits to be dismissed.
-/

namespace Formulary.Display

/-- Where a submitted form goes. -/
inductive Destination where
  /-- A new note. -/
  | note
  /-- A field of a form in the configuration. -/
  | storedForm
  deriving DecidableEq

/-- Why the file of the configuration cannot be read or cannot be written, if there is a reason. -/
structure Hindrance where
  reading : Option String := none
  writing : Option String := none

structure Console where
  session : Form.Session
  board : Board
  vault : Vault
  tree : FileTree
  /-- The text of the configuration, if there is one. -/
  config : Option String
  hindrance : Hindrance := {}
  destination : Destination
  now : Calendar.Instant
  quitting : Bool := false

namespace Console

/-- Where the form runs. -/
def environment (c : Console) : Form.Environment := ⟨c.vault.documents c.tree, c.now⟩

/-- Tells the board what the form has to say. -/
def pump (c : Console) : Console :=
  let (updates, notices, session) := c.session.drain
  let board := { c.board with form := updates.foldl FormView.apply c.board.form }
  { c with session := session, board := notices.foldl Board.notify board }

def addError (c : Console) (message : String) : Console :=
  { c with board := c.board.addError message }

/-- Opens a form and computes its first values. -/
def open? (form : Form.Definition) (debounce : Nat) (vault : Vault) (tree : FileTree)
    (config : Option String) (destination : Destination) (now : Calendar.Instant) :
    Except Form.Error Console :=
  (Form.Session.start form debounce).map fun session =>
    let c : Console := {
      session := session
      board := { form := { title := form.title, button := form.button } }
      vault := vault
      tree := tree
      config := config
      destination := destination
      now := now }
    { c with session := session.computeAll c.environment }.pump

/-! ## Editing -/

/-- Gives the form a value for a field. -/
def edit (c : Console) (id value : String) : Console :=
  match c.session.edit? c.environment id value with
  | .ok session => { c with session := session }.pump
  | .error e => (c.addError e.message).pump

/-- Changes the shown value of the field that has the focus, and gives it to the form unless it
counts only once the field is left. -/
def type (c : Console) (change : FieldView → FieldView) : Console :=
  let c := { c with board := { c.board with form := c.board.form.changeActive change } }
  match c.board.form.active? with
  | none => c
  | some v => if v.commitsOnLeave then c else c.edit v.id v.value

/-- Gives the form what was typed into the field that is left, unless it knows it already. -/
def commit (c : Console) : Console :=
  match c.board.form.active? with
  | none => c
  | some v =>
    if v.commitsOnLeave && c.session.value? v.id != some v.value then c.edit v.id v.value else c

/-- The value that an arrow gives to a field. -/
def arrowed? (c : Console) (v : FieldView) (forward : Bool) : Option String :=
  match v.kind with
  | .dropdown _ => v.cycled? forward
  | .range .. => (c.session.state? v.id).map fun state => v.stepped state.limits forward
  | _ => none

/-! ## Delivering -/

/-- Why a field is not added to the configuration. -/
inductive DeliveryError where
  | field (cause : Preset.BuildError)
  | reading (reason : String)
  | config (cause : Json.Fault)
  | form (cause : Config.AddError)
  | writing (reason : String)

def DeliveryError.message : DeliveryError → String
  | .field cause => cause.message
  | .reading reason => reason
  | .config cause => cause.message
  | .form cause => cause.message
  | .writing reason => reason

/-- The configuration of the file. Without a file it is the empty one. -/
def stored (c : Console) : Except DeliveryError Config :=
  match c.config, c.hindrance.reading with
  | none, _ => .ok {}
  | some _, some reason => .error (.reading reason)
  | some text, none => (Config.load text).mapError .config

/-- The configuration with the field that the form describes, and what is then said. -/
def addField (c : Console) : Except DeliveryError (Config × String) := do
  let values := c.session.values
  let field ← (Preset.fieldOfValues c.now values).mapError .field
  let target := Preset.targetOf values
  let (config, _) ← ((← c.stored).addField target field c.now).mapError .form
  match c.hindrance.writing with
  | some reason => throw (.writing reason)
  | none => return (config, field.label ++ " in " ++ target)

/-- Says what was saved. -/
def announce (c : Console) (saved : String) : Console :=
  { c with board := c.board.announce saved }

/-- Delivers a submitted form. The folders that were made for a note stay, even if the note itself
cannot be added. -/
def deliver (c : Console) (s : Form.Submission) : Console :=
  match c.destination with
  | .note =>
    let (created, tree) := (c.vault.create s.fileName s.frontMatter).run c.tree
    let c := { c with tree := tree }
    match created with
    | .ok _ => c.announce s.fileName
    | .error e => c.addError ("Failed to write " ++ s.fileName ++ ": " ++ e.message)
  | .storedForm =>
    match c.addField with
    | .ok (config, saved) => { c with config := some config.save }.announce saved
    | .error e => c.addError ("Failed to add field: " ++ e.message)

/-- Submits the form. -/
def submit (c : Console) : Console :=
  let (submission, session) := c.session.submit c.environment
  let c := { c with session := session }.pump
  match submission with
  | .ok s => c.deliver s
  | .error e => c.addError e.message

/-! ## Keys -/

def moveFocus (c : Console) (move : FormView → FormView) : Console :=
  { c with board := { c.board with form := move c.board.form } }

/-- What a key does in a field. -/
def pressIn (c : Console) (v : FieldView) (k : Key) : Console :=
  match k.code with
  | .escape => { c with quitting := true }
  | .tab | .down => c.commit.moveFocus FormView.next
  | .backTab | .up => c.commit.moveFocus FormView.previous
  | .left | .right =>
    match c.arrowed? v (k.code = .right) with
    | some value => c.edit v.id value
    | none => c
  | .enter =>
    if v.isMultiline then c.type (·.push '\n')
    else if v.commitsOnLeave then c.commit
    else c
  | .char x =>
    if x = 's' && k.control then c.commit.submit
    else if x = ' ' && v.kind = .toggle then c.edit v.id v.toggled
    else if v.acceptsText then c.type (·.push x)
    else c
  | .backspace => if v.acceptsText then c.type FieldView.pop else c
  | .delete => c

/-- Takes a key. An error that waits takes it first. -/
def press (c : Console) (k : Key) : Console :=
  if c.board.error?.isSome then
    if k.code = .enter || k.code = .escape then { c with board := c.board.dismiss } else c
  else match c.board.form.active? with
    | some v => c.pressIn v k
    | none => if k.code = .escape then { c with quitting := true } else c

/-- Lets time pass, in milliseconds. -/
def wait (c : Console) (time : Nat) : Console :=
  { c with session := c.session.sleep c.environment time }.pump

end Console

end Formulary.Display
