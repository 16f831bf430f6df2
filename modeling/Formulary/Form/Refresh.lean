import Formulary.Form.Graph
import Formulary.Form.State

/-!
# Computing a field anew

`refresh` computes what a change makes necessary: for the first computation everything, for a
user's edit the value and the visibility, and for changes of other fields the properties that refer
to one of them. It sees the values of the other fields, changes only the field's own state, and
says what a display is to be told.
-/

namespace Formulary.Form

open Template (Property Context ResolveM)

/-- Where forms run: the notes they may read, and the present. -/
structure Environment where
  store : DocumentStore
  now : Calendar.Instant

/-- Why a field is computed. -/
inductive Change where
  | initial
  /-- The user gave a value; an empty one falls back to the content. -/
  | user (raw : String)
  /-- Other fields changed; `trigger` stands for them. -/
  | others (changed : List String) (trigger : String)

/-- What a computation reads besides the field's own state. -/
structure Surroundings where
  env : Environment
  graph : Graph
  /-- The values of the form's fields. -/
  values : String → Option String

/-- The state of the field, and what was said so far. -/
structure Progress where
  own : FieldState
  updates : List Update := []
  trace : Template.Trace := {}

abbrev RefreshM := StateM Progress

def tell (u : Update) : RefreshM Unit := modify fun p => { p with updates := p.updates ++ [u] }

def own : RefreshM FieldState := return (← get).own

def setOwn (s : FieldState) : RefreshM Unit := modify fun p => { p with own := s }

/-- A computation over references, on the record of the field. -/
def consult {α : Type} (m : ResolveM α) : RefreshM α := fun p =>
  let (a, trace) := m.run p.trace
  (a, { p with trace := trace })

namespace Surroundings

/-- The property must be computed on this change. -/
def needs (s : Surroundings) (f : Field) (name : PropertyName) : Change → Bool
  | .initial => true
  | .user _ => false
  | .others changed _ => (s.graph.context f.id name).any (changed.contains ·)

/-- The current values of the fields that a property refers to. -/
def context (s : Surroundings) (f : Field) (name : PropertyName) (state : FieldState) : Context :=
  fun id =>
    if (s.graph.context f.id name).contains id then
      if id = f.id then some state.value else s.values id
    else none

/-- The value of a property. -/
def evaluate {α : Type} (s : Surroundings) (f : Field) (name : PropertyName) (toJson : α → Json)
    (property : Property α) : RefreshM Json := do
  let context := s.context f name (← own)
  consult (Template.evaluate s.env.now s.env.store context toJson property)

/-- The value of a property text. -/
def evaluateText (s : Surroundings) (f : Field) (name : PropertyName) (raw : String) :
    RefreshM Json := do
  let context := s.context f name (← own)
  consult (Template.evaluateText s.env.now s.env.store context raw)

/-! ## Options and limits -/

/-- The options that a value lists. -/
def optionValues : Json → List String
  | .array items => items.map plainText
  | .null => []
  | v => [plainText v]

/-- The field on whose account options are computed. -/
def optionSource (s : Surroundings) (f : Field) : Change → String
  | .others changed trigger =>
    ((s.graph.context f.id .options).find? (changed.contains ·)).getD trigger
  | _ => ((s.graph.context f.id .options).head?).getD f.id

def refreshOptions (s : Surroundings) (f : Field) (change : Change) : RefreshM Unit := do
  match f.kind with
  | .dropdown (some (.expression source)) =>
    if s.needs f .options change then
      let v ← s.evaluateText f .options source
      let state ← own
      let options := state.options.merge ⟨s.optionSource f change, .options⟩ (optionValues v)
      setOwn { state with options := options }
      tell (.options f.id options.values)
  | _ => return

/-- One limit; what is no finite number leaves it as it is. -/
def refreshLimit (s : Surroundings) (f : Field) (change : Change) (name : PropertyName)
    (limit : Option (Property Binary64)) (set : Binary64 → Limits → Limits) : RefreshM Unit := do
  match limit with
  | none => return
  | some limit =>
    if s.needs f name change then
      let number := (← s.evaluate f name Json.float limit).toNumber
      if number.isFinite then
        let state ← own
        setOwn { state with limits := set number state.limits }

def refreshLimits (s : Surroundings) (f : Field) (change : Change) : RefreshM Unit := do
  match f.kind with
  | .range least greatest step =>
    s.refreshLimit f change .least least fun x limits => { limits with least := x }
    s.refreshLimit f change .greatest greatest fun x limits => { limits with greatest := x }
    s.refreshLimit f change .step step fun x limits => { limits with step := x }
  | _ => return

/-! ## Value -/

/-- The value of the field's content. -/
def contentValue (s : Surroundings) (f : Field) : RefreshM Json :=
  match f.content with
  | none => return .string ""
  | some (.expression source) =>
    if f.verbatim then return .string source else s.evaluateText f .value source
  | some (.fixed text) => return .string text

/-- The value of a dropdown has dropped out of its options. -/
def hasStaleOption (f : Field) (state : FieldState) : Bool :=
  f.kind.isDropdown && !state.value.isEmpty && !state.options.contains state.value

/-- The value that a change proposes, if it proposes one. -/
def proposal (s : Surroundings) (f : Field) (change : Change) : RefreshM (Option Json) := do
  match change with
  | .user raw => if raw.isEmpty then return some (← s.contentValue f) else return some (.string raw)
  | .initial => return some (← s.contentValue f)
  | .others .. =>
    if s.needs f .value change || hasStaleOption f (← own) then
      return some (← s.contentValue f)
    else return none

/-- Stores a value. A dropdown takes its first option for an empty one, and takes a value that is
not among its options in. -/
def store (f : Field) (change : Change) (value : String) : RefreshM Unit := do
  let state ← own
  if f.kind.isDropdown then
    let value := if value.isEmpty then (state.options.first?).getD "" else value
    let source := match change with
      | .others _ trigger => trigger
      | _ => f.id
    let (options, fresh) := state.options.inject ⟨source, .value⟩ value
    setOwn { state with options := options, value := value }
    if fresh then tell (.options f.id options.values)
    tell (.value f.id value)
  else
    setOwn { state with value := value }
    tell (.value f.id value)

/-- A value that does not fit the kind leaves the old one, with a warning. -/
def refreshValue (s : Surroundings) (f : Field) (change : Change) : RefreshM Unit := do
  match ← s.proposal f change with
  | none => return
  | some candidate =>
    match coerce f.kind (← own).limits candidate with
    | .ok value => store f change value
    | .error e => consult (Template.raise (.warning (f.label ++ ": " ++ e.message)))

/-! ## Texts and visibility -/

def refreshPlaceholder (s : Surroundings) (f : Field) (change : Change) : RefreshM Unit := do
  match f.placeholder with
  | none => return
  | some raw =>
    if s.needs f .placeholder change then
      let text := plainText (← s.evaluateText f .placeholder raw)
      tell (.placeholder f.id text)
      setOwn { ← own with placeholder := text }

def refreshDescription (s : Surroundings) (f : Field) (change : Change) : RefreshM Unit := do
  match f.description with
  | none => return
  | some raw =>
    if s.needs f .description change then
      let text := plainText (← s.evaluateText f .description raw)
      tell (.description f.id text)
      setOwn { ← own with description := text }

/-- The field is hidden now. -/
def isHidden (s : Surroundings) (f : Field) : RefreshM Bool :=
  match f.hide with
  | none => return false
  | some raw => return (← s.evaluateText f .hide raw).truthy

/-- A user's edit always decides on the visibility anew. -/
def refreshVisibility (s : Surroundings) (f : Field) (change : Change) : RefreshM Unit := do
  let edited := match change with
    | .user _ => true
    | _ => false
  if edited || s.needs f .hide change then
    let hidden ← s.isHidden f
    setOwn { ← own with hidden := hidden, required := f.required && !hidden }
    tell (.visible f.id !hidden)

/-- Computes what a change makes necessary. -/
def refresh (s : Surroundings) (f : Field) (change : Change) : RefreshM Unit := do
  s.refreshOptions f change
  s.refreshLimits f change
  s.refreshValue f change
  s.refreshPlaceholder f change
  s.refreshDescription f change
  s.refreshVisibility f change

end Surroundings

end Formulary.Form
