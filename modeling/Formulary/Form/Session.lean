import Formulary.Form.Output
import Formulary.Form.Refresh
import Formulary.Form.Schedule

/-!
# A form while it is open

A session holds the state of every field. An edit is followed by a wave: the fields that depend on
it are computed level by level, each after everything it depends on. The wave of a continuous field
waits for a while and is replaced by the wave of a later edit of that field. What a display is to be
told, and the notices, collect in the session until they are taken out.

The store of documents answers at once, so a wave runs to its end at the moment at which it starts,
and no other change is made while a field is computed. A store that is slow to answer allows that: a
change does not stop what is under way, which goes on with what it has read. A session does not have
such overlaps.
-/

namespace Formulary.Form

/-- A change that spreads. -/
structure Wave where
  /-- The field in which it started. -/
  origin : String
  /-- The fields that have changed so far. -/
  changed : List String
  /-- The levels that are still to be computed. -/
  levels : List (List String)

structure Session where
  form : Definition
  graph : Graph
  /-- The state of each field, in the order of the form. -/
  states : List (String × FieldState)
  /-- The waves that wait, by the field they start from. -/
  schedule : Schedule String
  updates : List Update := []
  trace : Template.Trace := {}

namespace Session

/-- How long the edit of a continuous field waits, in milliseconds. -/
def defaultDebounce : Nat := 400

/-! ## Opening -/

/-- What a display is told of a field at first. -/
def opening (f : Field) : List Update :=
  let options := (FieldState.created f).options
  .render f :: if options.isEmpty then [] else [.options f.id options.values]

/-- Opens a form on a display, which is told of every field; nothing is computed yet. -/
def startOn (form : Definition) (debounce : Nat) :
    ExceptT Error (StateM (List Update)) Session := do
  let graph ← ExceptT.mk (pure (Graph.ofDefinition form))
  modify (· ++ form.fields.flatMap opening)
  return {
    form := form
    graph := graph
    states := form.fields.map fun f => (f.id, FieldState.created f)
    schedule := { delay := debounce } }

/-- Opens a form. What its display is told stays in the session for now. -/
def start (form : Definition) (debounce : Nat) : Except Error Session :=
  match (startOn form debounce).run.run [] with
  | (.ok s, shown) => .ok { s with updates := shown }
  | (.error e, _) => .error e

/-! ## States -/

def state? (s : Session) (id : String) : Option FieldState := s.states.lookup id

def value? (s : Session) (id : String) : Option String := (s.state? id).map FieldState.value

/-- The values of all fields, in the order of the form. -/
def values (s : Session) : List (String × String) :=
  s.states.map fun (id, state) => (id, state.value)

/-- The states with one replaced. -/
def putState (id : String) (state : FieldState) :
    List (String × FieldState) → List (String × FieldState) :=
  List.map fun (i, old) => if i = id then (i, state) else (i, old)

/-! ## Computing -/

/-- Computes a field on a change. -/
def refresh (env : Environment) (s : Session) (f : Field) (change : Change) : Session :=
  let surroundings : Surroundings := ⟨env, s.graph, s.value?⟩
  let state := (s.state? f.id).getD (FieldState.created f)
  let (_, p) := (surroundings.refresh f change).run ⟨state, [], s.trace⟩
  { s with
    states := putState f.id p.own s.states
    updates := s.updates ++ p.updates
    trace := p.trace }

/-- Computes a field on changes of others. The trigger is the first of the field's sources that
changed. -/
def refreshDependent (env : Environment) (origin : String) (changed : List String) (s : Session)
    (id : String) : Session :=
  match s.form.field? id with
  | none => s
  | some f =>
    let trigger := ((s.graph.sources id).find? (changed.contains ·)).getD origin
    s.refresh env f (.others changed trigger)

/-! ## Waves -/

/-- The wave of a change. -/
def wave (s : Session) (origin : String) : Wave := ⟨origin, [origin], s.graph.wave origin⟩

/-- Computes the next level of a wave. -/
def runLevel (env : Environment) (s : Session) (w : Wave) : Session × Wave :=
  match w.levels with
  | [] => (s, w)
  | level :: levels =>
    (level.foldl (refreshDependent env w.origin w.changed) s,
      { w with changed := w.changed ++ level, levels := levels })

/-- Computes the next level of each of several waves. -/
def runRound (env : Environment) (s : Session) : List Wave → Session × List Wave
  | [] => (s, [])
  | w :: waves =>
    let (s, w) := s.runLevel env w
    let (s, waves) := s.runRound env waves
    (s, w :: waves)

/-- Waves that start together advance together, level by level. -/
def runRounds (env : Environment) (s : Session) (waves : List Wave) : Nat → Session
  | 0 => s
  | n + 1 =>
    let (s, waves) := s.runRound env waves
    s.runRounds env waves n

/-- Spreads the changes of some fields to all fields that depend on them. -/
def spread (env : Environment) (s : Session) (origins : List String) : Session :=
  let waves := origins.map s.wave
  s.runRounds env waves ((waves.map fun w => w.levels.length).foldl max 0)

/-- Spreads a change of a field to all fields that depend on it. -/
def propagate (env : Environment) (s : Session) (origin : String) : Session :=
  s.spread env [origin]

/-! ## Time -/

/-- Waves take no time, as the store answers at once. -/
def waveTime (_ : String) : Option Nat := none

/-- The field whose wave an event of the schedule starts. -/
def startedOrigin? : Firing String → Option String
  | ⟨_, .started origin⟩ => some origin
  | ⟨_, .finished _⟩ => none

/-- Runs the waves that the schedule has started, those of one time together. -/
def react (env : Environment) (s : Session) (firings : List (Firing String)) : Session :=
  (firings.splitBy fun a b => a.time == b.time).foldl
    (fun s together => s.spread env (together.filterMap startedOrigin?)) s

/-- Lets time pass, in milliseconds. -/
def sleep (env : Environment) (s : Session) (time : Nat) : Session :=
  let (firings, schedule) := s.schedule.advance waveTime time
  { s with schedule := schedule }.react env firings

/-- Lets all waiting waves run. -/
def settle (env : Environment) (s : Session) : Session :=
  let (firings, schedule) := s.schedule.settle waveTime
  { s with schedule := schedule }.react env firings

/-! ## Operations -/

def field? (s : Session) (id : String) : Except Error Field :=
  match s.form.field? id with
  | some f => .ok f
  | none => .error (.unknownField id)

/-- Computes a field for the first time. -/
def computeField (env : Environment) (s : Session) (f : Field) : Session :=
  let s := s.refresh env f .initial
  let state := (s.state? f.id).getD (FieldState.created f)
  { s with states := putState f.id { state with initialized := true } s.states }

def compute? (env : Environment) (s : Session) (id : String) : Except Error Session :=
  (s.field? id).map (s.computeField env)

/-- Computes all fields for the first time, each after everything it depends on. -/
def computeAll (env : Environment) (s : Session) : Session :=
  (s.graph.order.filterMap s.form.field?).foldl (computeField env) s

/-- Takes a value from the user. -/
def editField (env : Environment) (s : Session) (f : Field) (raw : String) : Session :=
  let s := s.refresh env f (.user raw)
  if f.kind.isContinuous then { s with schedule := s.schedule.request f.id f.id }
  else s.propagate env f.id

def edit? (env : Environment) (s : Session) (id raw : String) : Except Error Session :=
  (s.field? id).map fun f => s.editField env f raw

/-- Computes what in a field refers to `trigger`, and spreads the change. -/
def sourceChanged? (env : Environment) (s : Session) (id trigger : String) : Except Error Session :=
  (s.field? id).map fun f =>
    (s.refresh env f (.others [trigger] trigger)).propagate env id

/-! ## Taking out -/

/-- What a display is to be told and the notices, which the session then has no more. -/
def drain (s : Session) : List Update × List Notice × Session :=
  (s.updates, s.trace.notices, { s with updates := [], trace := { s.trace with notices := [] } })

end Session

end Formulary.Form
