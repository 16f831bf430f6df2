import Formulary.Proofs.Levels
import Formulary.Proofs.States
import Mathlib.Data.List.SplitBy

/-!
# What waves leave behind

A fact about one field that reads some others (its context) may be lost when one of these changes,
and is brought about again when the field is computed on that change. `Tracks` says this of a fact,
computation by computation, and `Follows` says it of part of what may happen. A wave `Brings` a
context to a field when it will come to the field with one of the context among its changed fields.

* `Follows.spread`: a fact that holds, or that some wave brings about again, holds when these waves
  are over.
* `propagate_turns`: what each turn of a wave takes from the fields still to come to those after
  it, the wave takes from all its fields to none.
-/

namespace Formulary.Form

/-! ## Sessions of a form -/

/-- A session of a form and its graph: every field has a state, and what waits under a field's key
is the wave of this field. -/
structure Session.Fits (s : Session) (form : Definition) (g : Graph) : Prop where
  ofForm : s.form = form
  ofGraph : s.graph = g
  keys : s.states.map Prod.fst = form.ids
  timers : ∀ t ∈ s.schedule.timers, t.key = some t.work

variable {s : Session} {form : Definition} {g : Graph} {env : Environment} {f : Field}
  {change : Change} {origin : String} {changed : List String}

theorem Definition.field?_of_mem (unique : form.ids.Nodup) (member : f ∈ form.fields) :
    form.field? f.id = some f :=
  find?_of_unique unique member

theorem Definition.mem_of_field? {id : String} (found : form.field? id = some f) :
    f ∈ form.fields ∧ f.id = id :=
  ⟨List.mem_of_find?_eq_some found, by simpa using List.find?_some found⟩

namespace Session

theorem Fits.state? (h : s.Fits form g) {id : String} (member : id ∈ form.ids) :
    ∃ state, s.state? id = some state := by
  rw [← h.keys, List.mem_map] at member
  rcases member with ⟨entry, inside, rfl⟩
  exact Option.isSome_iff_exists.1 (List.lookup_isSome_iff.2 ⟨entry, inside, beq_self_eq_true _⟩)

theorem Fits.value?_of_not_mem (h : s.Fits form g) {id : String} (absent : id ∉ form.ids) :
    s.value? id = none := by
  have missing : s.state? id = none := by
    refine List.lookup_eq_none_iff.2 fun entry inside => ?_
    rw [← h.keys] at absent
    simpa using fun (same : id = entry.1) => absent (same ▸ List.mem_map_of_mem inside)
  rw [value?, missing]
  rfl

theorem Fits.refresh (h : s.Fits form g) : (s.refresh env f change).Fits form g where
  ofForm := h.ofForm
  ofGraph := h.ofGraph
  keys := by rw [states_refresh, map_fst_putState, h.keys]
  timers := h.timers

theorem Fits.refreshDependent (h : s.Fits form g) (id : String) :
    (s.refreshDependent env origin changed id).Fits form g := by
  unfold Session.refreshDependent
  cases s.form.field? id with
  | none => exact h
  | some f => exact h.refresh

theorem Fits.level (h : s.Fits form g) (level : List String) :
    (level.foldl (Session.refreshDependent env origin changed) s).Fits form g := by
  induction level generalizing s with
  | nil => exact h
  | cons id level ih => exact ih (h.refreshDependent id)

end Session

/-! ## The turns of a wave -/

/-- The wave after its next level. -/
def Wave.next (w : Wave) : Wave :=
  match w.levels with
  | [] => w
  | level :: levels => { w with changed := w.changed ++ level, levels := levels }

/-- The wave that a change of a field starts. -/
def Graph.start (g : Graph) (origin : String) : Wave := ⟨origin, [origin], g.wave origin⟩

/-- The wave comes to the field `id` when just `changed` have changed. -/
def Wave.Turn (w : Wave) (changed : List String) (id : String) : Prop :=
  ∃ before level after, w.levels = before ++ level :: after ∧ id ∈ level ∧
    changed = w.changed ++ before.flatten

theorem Wave.origin_next (w : Wave) : w.next.origin = w.origin := by
  unfold Wave.next
  split <;> rfl

theorem Wave.length_next {w : Wave} {n : Nat} (short : w.levels.length ≤ n + 1) :
    w.next.levels.length ≤ n := by
  rcases w with ⟨origin, changed, levels⟩
  cases levels with
  | nil => exact Nat.zero_le n
  | cons level levels => exact Nat.le_of_succ_le_succ short

theorem Wave.Turn.of_next {w : Wave} {id : String} (turn : w.next.Turn changed id) :
    w.Turn changed id := by
  rcases w with ⟨origin, sofar, levels⟩
  cases levels with
  | nil => exact turn
  | cons level levels =>
    rcases turn with ⟨before, level', after, shape, inside, rfl⟩
    refine ⟨level :: before, level', after, congrArg (level :: ·) shape, inside, ?_⟩
    rw [List.flatten_cons, ← List.append_assoc]
    rfl

theorem Wave.Turn.mem_flatten {w : Wave} {id : String} (turn : w.Turn changed id) :
    id ∈ w.levels.flatten := by
  obtain ⟨before, level, after, shape, here, -⟩ := turn
  rw [shape]
  exact List.mem_flatten.2 ⟨level, List.mem_append_right _ List.mem_cons_self, here⟩

/-- A wave whose levels repeat no field comes to a field once. -/
theorem Wave.Turn.unique {w : Wave} {id : String} {changed' : List String}
    (once : w.levels.flatten.Nodup) (turn : w.Turn changed id) (turn' : w.Turn changed' id) :
    changed = changed' := by
  -- the levels before are those up to the first that has the field
  have upTo {before level after} (shape : w.levels = before ++ level :: after) (here : id ∈ level) :
      before = w.levels.takeWhile (!·.contains id) := by
    rw [shape, List.flatten_append, List.flatten_cons] at once
    have passed : ∀ l ∈ before, (!l.contains id) = true := by
      intro l inside
      have early : id ∈ l → id ∈ before.flatten := fun met => List.mem_flatten.2 ⟨l, inside, met⟩
      have apart := (List.nodup_append.1 once).2.2
      simpa using fun met => apart id (early met) id (List.mem_append_left _ here) rfl
    rw [shape, List.takeWhile_append_of_pos passed, List.takeWhile_cons_of_neg, List.append_nil]
    simpa using here
  rcases turn with ⟨before, level, after, shape, here, rfl⟩
  rcases turn' with ⟨before', level', after', shape', here', rfl⟩
  rw [upTo shape here, upTo shape' here']

/-- A wave comes to a field before it counts as changed, and everything that counts as changed is
the origin or depends on it. -/
theorem Graph.Represents.of_turn (h : g.Represents form) {id : String}
    (turn : (g.start origin).Turn changed id) :
    id ∉ changed ∧ ∀ x ∈ changed, Relation.ReflTransGen form.Edge origin x := by
  rcases turn with ⟨before, level, after, shape, inside, rfl⟩
  have shape : g.wave origin = before ++ level :: after := shape
  have once := (h.spreads_wave origin).once
  refine ⟨fun again => ?_, fun x member => ?_⟩
  · rw [shape, List.flatten_append, List.flatten_cons, ← List.cons_append, ← List.append_assoc,
      List.nodup_append] at once
    exact (List.nodup_append.1 once.1).2.2 id again id inside rfl
  · rcases List.mem_cons.1 member with rfl | member
    · exact .refl
    · have within : x ∈ (g.wave origin).flatten := by
        rw [shape, List.flatten_append]
        exact List.mem_append_left _ member
      exact (h.mem_flatten_wave_iff.1 within).to_reflTransGen

/-- **When a wave comes to a field, what it reads has changed just if the wave reaches it.** -/
theorem Graph.Represents.mem_changed_iff (h : g.Represents form) {id x : String}
    (turn : (g.start origin).Turn changed id) (edge : form.Edge x id) :
    x ∈ changed ↔ Relation.ReflTransGen form.Edge origin x := by
  refine ⟨fun met => (h.of_turn turn).2 x met, fun path => ?_⟩
  rcases turn with ⟨before, level, after, shape, here, rfl⟩
  have shape : g.wave origin = before ++ level :: after := shape
  have layered := (h.spreads_wave origin).layered
  have once := (List.nodup_cons.1 (h.spreads_wave origin).once).2
  rcases Relation.reflTransGen_iff_eq_or_transGen.1 path with rfl | further
  · exact List.mem_cons_self
  · have within := h.mem_flatten_wave_iff.2 further
    rw [shape, List.flatten_append, List.flatten_cons] at once within
    rcases List.mem_append.1 within with early | late
    · exact List.mem_cons_of_mem _ early
    · -- in its own level or later, the field would come to its turn only after it
      rw [shape] at layered
      have later := layered.behind (List.mem_append.1 late) edge
      rw [List.nodup_append, List.nodup_append] at once
      exact absurd rfl (once.2.1.2.2 id here id later)

namespace Session

theorem runLevel_snd (s : Session) (env : Environment) (w : Wave) :
    (s.runLevel env w).2 = w.next := by
  rcases w with ⟨origin, changed, levels⟩
  cases levels <;> rfl

theorem runRound_snd (s : Session) (env : Environment) (waves : List Wave) :
    (s.runRound env waves).2 = waves.map Wave.next := by
  induction waves generalizing s with
  | nil => rfl
  | cons w waves ih =>
    rw [List.map_cons, ← runLevel_snd s env, ← ih (s.runLevel env w).1]
    rfl

section Through

variable {P : List String → Session → Prop} {Q : Session → Prop}

/-- What the turns of a wave take from the fields that are to come to those after it, the next level
does. -/
theorem runLevel_turns {w : Wave}
    (step : ∀ s changed id rest, w.Turn changed id → P (id :: rest) s →
      P rest (refreshDependent env w.origin changed s id))
    {s : Session} (holds : P w.levels.flatten s) :
    P w.next.levels.flatten (s.runLevel env w).1 := by
  rcases w with ⟨origin, changed, levels⟩
  cases levels with
  | nil => exact holds
  | cons level levels =>
    have turn : ∀ id ∈ level, Wave.Turn ⟨origin, changed, level :: levels⟩ changed id :=
      fun id inside => ⟨[], level, levels, rfl, inside, (List.append_nil _).symm⟩
    show P levels.flatten (level.foldl (Session.refreshDependent env origin changed) s)
    replace holds : P (level ++ levels.flatten) s := holds
    generalize level :: levels = all at step turn
    induction level generalizing s with
    | nil => exact holds
    | cons id level ih =>
      refine ih (step s changed id _ (turn id List.mem_cons_self) holds) fun i inside => ?_
      exact turn i (List.mem_cons_of_mem _ inside)

/-- What the turns of a wave preserve, its next level preserves. -/
theorem runLevel_preserves {w : Wave}
    (step : ∀ s changed id, w.Turn changed id → Q s →
      Q (refreshDependent env w.origin changed s id))
    {s : Session} (holds : Q s) : Q (s.runLevel env w).1 :=
  runLevel_turns (P := fun _ => Q) (fun s changed id _ => step s changed id) holds

theorem runRound_preserves {waves : List Wave}
    (step : ∀ w ∈ waves, ∀ s changed id, w.Turn changed id → Q s →
      Q (refreshDependent env w.origin changed s id))
    {s : Session} (holds : Q s) : Q (s.runRound env waves).1 := by
  induction waves generalizing s with
  | nil => exact holds
  | cons w waves ih =>
    exact ih (fun v member => step v (List.mem_cons_of_mem _ member))
      (runLevel_preserves (step w List.mem_cons_self) holds)

theorem runRounds_preserves {waves : List Wave}
    (step : ∀ w ∈ waves, ∀ s changed id, w.Turn changed id → Q s →
      Q (refreshDependent env w.origin changed s id))
    {s : Session} (holds : Q s) (n : Nat) : Q (s.runRounds env waves n) := by
  induction n generalizing s waves with
  | zero => exact holds
  | succ n ih =>
    refine ih (fun v member t changed id turn => ?_) (runRound_preserves step holds)
    rw [runRound_snd] at member
    rcases List.mem_map.1 member with ⟨w, inside, rfl⟩
    rw [w.origin_next]
    exact step w inside t changed id turn.of_next

/-- **What every turn of the waves preserves, spreading the changes preserves.** -/
theorem spread_preserves {origins : List String}
    (step : ∀ o ∈ origins, ∀ t changed id, (s.wave o).Turn changed id → Q t →
      Q (refreshDependent env o changed t id))
    (holds : Q s) : Q (s.spread env origins) := by
  refine runRounds_preserves (fun w member => ?_) holds _
  rcases List.mem_map.1 member with ⟨o, inside, rfl⟩
  exact step o inside

/-- **What every turn takes from the fields that are to come to those after it, spreading a change
takes from all fields of the wave to none.** -/
theorem propagate_turns
    (step : ∀ t changed id rest, (s.wave origin).Turn changed id → P (id :: rest) t →
      P rest (refreshDependent env origin changed t id))
    (holds : P (s.graph.wave origin).flatten s) : P [] (s.propagate env origin) := by
  have rounds (w : Wave) (n : Nat) (short : w.levels.length ≤ n) (named : w.origin = origin)
      (step : ∀ t changed id rest, w.Turn changed id → P (id :: rest) t →
        P rest (refreshDependent env origin changed t id))
      {t : Session} (holds : P w.levels.flatten t) : P [] (t.runRounds env [w] n) := by
    induction n generalizing w t with
    | zero =>
      rw [List.length_eq_zero_iff.1 (Nat.le_zero.1 short)] at holds
      exact holds
    | succ n ih =>
      have next := t.runLevel_snd env w
      show P [] (runRounds env (t.runLevel env w).1 [(t.runLevel env w).2] n)
      rw [next]
      refine ih w.next (Wave.length_next short) (w.origin_next.trans named)
        (fun t changed id rest turn => step t changed id rest turn.of_next) ?_
      exact runLevel_turns (by rw [named]; exact step) holds
  have levels : (s.graph.wave origin).length ≤ max 0 (s.graph.wave origin).length :=
    Nat.le_max_right _ _
  exact rounds (s.wave origin) _ levels rfl step holds

end Through

theorem Fits.spread (h : s.Fits form g) (origins : List String) :
    (s.spread env origins).Fits form g :=
  spread_preserves (Q := fun t => t.Fits form g)
    (fun _ _ _ _ id _ fits => fits.refreshDependent id) h

theorem schedule_spread (origins : List String) :
    (s.spread env origins).schedule = s.schedule := by
  refine spread_preserves (Q := fun t => t.schedule = s.schedule)
    (fun o _ t changed id _ same => ?_) rfl
  unfold refreshDependent
  cases t.form.field? id with
  | none => exact same
  | some f => exact same

end Session

/-! ## Facts about a field -/

/-- The wave will come to the field `id`, with one of `context` among its changed fields by then. -/
def Wave.Brings (w : Wave) (context : List String) (id : String) : Prop :=
  id ∈ w.levels.flatten ∧ ∃ x ∈ context, x ∈ w.changed ∨ x ∈ w.levels.flatten

/-- A wave that comes to what a field reads brings it to the field. -/
theorem Graph.Represents.brings_of_path (h : g.Represents form) {x id : String}
    {context : List String} (read : x ∈ context) (edge : form.Edge x id)
    (path : Relation.ReflTransGen form.Edge origin x) : (g.start origin).Brings context id := by
  refine ⟨h.mem_flatten_wave_iff.2 (Relation.TransGen.tail' path edge), x, read, ?_⟩
  rcases Relation.reflTransGen_iff_eq_or_transGen.1 path with rfl | further
  · exact Or.inl List.mem_cons_self
  · exact Or.inr (h.mem_flatten_wave_iff.2 further)

/-- The levels of the wave are fit for a change to spread through them. -/
structure Wave.Sound (w : Wave) (form : Definition) : Prop where
  layered : Layered form.Edge w.levels
  once : w.levels.flatten.Nodup

theorem Graph.Represents.sound_start (h : g.Represents form) (origin : String) :
    (g.start origin).Sound form :=
  ⟨(h.spreads_wave origin).layered, (List.nodup_cons.1 (h.spreads_wave origin).once).2⟩

theorem Wave.Sound.next {w : Wave} (h : w.Sound form) : w.next.Sound form := by
  rcases w with ⟨origin, changed, levels⟩
  cases levels with
  | nil => exact h
  | cons level levels =>
    rcases h with ⟨⟨-, layered⟩, once⟩
    rw [List.flatten_cons, List.nodup_append] at once
    exact ⟨layered, once.2.1⟩

/-- A fact about a field that computing the field brings about when one of `context` has changed.
Other computations leave it alone, unless they are of a field of `context`. All this is said of the
environments that `E` admits, and of what `A` admits to have changed when the field is computed. -/
structure Follows (E : Environment → Prop) (A : List String → Prop) (form : Definition)
    (g : Graph) (f : Field) (context : List String) (P : Session → Prop) : Prop where
  sources : ∀ x ∈ context, form.Edge x f.id
  timeless : ∀ (s : Session) (schedule : Schedule String), P s → P { s with schedule := schedule }
  others : ∀ (s : Session) env f' change, E env → s.Fits form g → f'.id ≠ f.id →
    f'.id ∉ context → P s → P (s.refresh env f' change)
  renewed : ∀ (s : Session) env changed trigger, E env → A changed → s.Fits form g →
    (∃ x ∈ context, x ∈ changed) → P (s.refresh env f (.others changed trigger))
  kept : ∀ (s : Session) env changed trigger, E env → A changed → s.Fits form g →
    (¬ ∃ x ∈ context, x ∈ changed) → P s → P (s.refresh env f (.others changed trigger))

/-- When the wave of `origin` comes to the field `id`, what has changed is admitted. -/
def Graph.Admits (g : Graph) (A : List String → Prop) (id origin : String) : Prop :=
  ∀ changed, (g.start origin).Turn changed id → A changed

namespace Follows

open Session

variable {E : Environment → Prop} {A : List String → Prop} {context : List String}
  {P : Session → Prop} {rest : Prop}

/-- Computing the field brings the fact about, or leaves it alone. -/
theorem refreshDependent_self (t : Follows E A form g f context P) (inside : E env)
    (admitted : A changed) (fits : s.Fits form g) (known : form.field? f.id = some f)
    (h : P s ∨ ∃ x ∈ context, x ∈ changed) :
    P (s.refreshDependent env origin changed f.id) := by
  unfold refreshDependent
  rw [fits.ofForm, known]
  by_cases met : ∃ x ∈ context, x ∈ changed
  · exact t.renewed s env changed _ inside admitted fits met
  · exact t.kept s env changed _ inside admitted fits met (h.resolve_right met)

theorem foldl_apart (t : Follows E A form g f context P) (inside : E env) (fits : s.Fits form g)
    {level : List String} (absent : f.id ∉ level) (apart : ∀ x ∈ context, x ∉ level) (h : P s) :
    P (level.foldl (refreshDependent env origin changed) s) := by
  induction level generalizing s with
  | nil => exact h
  | cons id level ih =>
    refine ih (fits.refreshDependent id) (fun here => absent (List.mem_cons_of_mem _ here))
      (fun x read here => apart x read (List.mem_cons_of_mem _ here)) ?_
    unfold refreshDependent
    cases found : s.form.field? id with
    | none => exact h
    | some f' =>
      rcases Definition.mem_of_field? found with ⟨-, rfl⟩
      exact t.others s env f' _ inside fits (fun same => absent (same ▸ List.mem_cons_self))
        (fun read => apart f'.id read List.mem_cons_self) h

/-- At the field's turn in a level, computing it brings the fact about or leaves it alone. -/
theorem foldl_turn (t : Follows E A form g f context P) (inside : E env) (admitted : A changed)
    (known : form.field? f.id = some f) (fits : s.Fits form g) {level : List String}
    (once : level.Nodup) (here : f.id ∈ level) (apart : ∀ x ∈ context, x ∉ level)
    (h : P s ∨ ∃ x ∈ context, x ∈ changed) :
    P (level.foldl (refreshDependent env origin changed) s) := by
  rcases List.append_of_mem here with ⟨before, after, rfl⟩
  rw [List.nodup_append, List.nodup_cons] at once
  rcases once with ⟨-, ⟨unseen, -⟩, disjoint⟩
  rw [List.foldl_append, List.foldl_cons]
  have arrived : P (before.foldl (refreshDependent env origin changed) s) ∨
      ∃ x ∈ context, x ∈ changed := by
    refine h.imp_left (t.foldl_apart inside fits (fun early => ?_) fun x read early => ?_)
    · exact disjoint f.id early f.id List.mem_cons_self rfl
    · exact apart x read (List.mem_append_left _ early)
  refine t.foldl_apart inside ((fits.level before).refreshDependent f.id) unseen
    (fun x read late => ?_)
    (t.refreshDependent_self inside admitted (fits.level before) known arrived)
  exact apart x read (List.mem_append_right _ (List.mem_cons_of_mem _ late))

/-- **One level.** A fact that holds, or is brought about by the wave or otherwise, is so after the
next level of the wave. -/
theorem runLevel (t : Follows E A form g f context P) (inside : E env)
    (known : form.field? f.id = some f) (fits : s.Fits form g) {w : Wave} (sound : w.Sound form)
    (admits : ∀ changed, w.Turn changed f.id → A changed)
    (h : P s ∨ w.Brings context f.id ∨ rest) :
    P (s.runLevel env w).1 ∨ w.next.Brings context f.id ∨ rest := by
  rcases w with ⟨origin, changed, levels⟩
  cases levels with
  | nil => exact h
  | cons level levels =>
    rcases sound with ⟨⟨forward, layered⟩, once⟩
    rw [List.flatten_cons, List.nodup_append] at once
    rcases once with ⟨once, -, disjoint⟩
    show P (level.foldl (refreshDependent env origin changed) s) ∨
      Wave.Brings ⟨origin, changed ++ level, levels⟩ context f.id ∨ rest
    -- A field of the context in this level puts the field into a later one.
    by_cases met : ∃ x ∈ context, x ∈ level
    · rcases met with ⟨x, read, inside⟩
      refine Or.inr (Or.inl ⟨forward x inside f.id (t.sources x read), x, read, Or.inl ?_⟩)
      exact List.mem_append_right _ inside
    · have apart : ∀ x ∈ context, x ∉ level := fun x read inside => met ⟨x, read, inside⟩
      by_cases here : f.id ∈ level
      · -- It is the field's turn: what the wave was to bring has changed by now.
        have admitted : A changed :=
          admits changed ⟨[], level, levels, rfl, here, (List.append_nil _).symm⟩
        have turn : (P s ∨ ∃ x ∈ context, x ∈ changed) ∨ rest := by
          rcases h with holds | ⟨-, x, read, now | later⟩ | other
          · exact Or.inl (Or.inl holds)
          · exact Or.inl (Or.inr ⟨x, read, now⟩)
          · rw [List.flatten_cons] at later
            have behind := (List.mem_append.1 later).resolve_left (apart x read)
            exact absurd rfl (disjoint f.id here f.id (layered.closed behind (t.sources x read)))
          · exact Or.inr other
        exact turn.imp (t.foldl_turn inside admitted known fits once here apart) Or.inr
      · rcases h with holds | ⟨inside, x, read, met⟩ | other
        · exact Or.inl (t.foldl_apart inside fits here apart holds)
        · rw [List.flatten_cons] at inside met
          refine Or.inr (Or.inl ⟨(List.mem_append.1 inside).resolve_left here, x, read, ?_⟩)
          rcases met with now | later
          · exact Or.inl (List.mem_append_left _ now)
          · exact Or.inr ((List.mem_append.1 later).resolve_left (apart x read))
        · exact Or.inr (Or.inr other)

/-- **One round.** Every wave takes its next level. -/
theorem runRound (t : Follows E A form g f context P) (inside : E env)
    (known : form.field? f.id = some f) (fits : s.Fits form g) {waves : List Wave}
    (sound : ∀ w ∈ waves, w.Sound form)
    (admits : ∀ w ∈ waves, ∀ changed, w.Turn changed f.id → A changed)
    (h : P s ∨ (∃ w ∈ waves, w.Brings context f.id) ∨ rest) :
    P (s.runRound env waves).1 ∨ (∃ w ∈ waves.map Wave.next, w.Brings context f.id) ∨ rest := by
  induction waves generalizing s rest with
  | nil => exact h.imp_right (Or.imp_left fun ⟨_, member, _⟩ => absurd member List.not_mem_nil)
  | cons w waves ih =>
    rw [List.exists_mem_cons_iff, or_assoc] at h
    have first := t.runLevel inside known fits (sound w List.mem_cons_self)
      (admits w List.mem_cons_self) h
    have fits' : (s.runLevel env w).1.Fits form g :=
      runLevel_preserves (Q := fun t => t.Fits form g)
        (fun _ _ id _ fits => fits.refreshDependent id) fits
    have later := ih fits' (fun v member => sound v (List.mem_cons_of_mem _ member))
      (fun v member => admits v (List.mem_cons_of_mem _ member))
      (first.imp_right or_left_comm.1)
    rw [List.map_cons, List.exists_mem_cons_iff, or_assoc]
    exact later.imp_right or_left_comm.1

/-- **All rounds.** -/
theorem runRounds (t : Follows E A form g f context P) (inside : E env)
    (known : form.field? f.id = some f) (fits : s.Fits form g) {waves : List Wave}
    (sound : ∀ w ∈ waves, w.Sound form)
    (admits : ∀ w ∈ waves, ∀ changed, w.Turn changed f.id → A changed) {n : Nat}
    (short : ∀ w ∈ waves, w.levels.length ≤ n)
    (h : P s ∨ (∃ w ∈ waves, w.Brings context f.id) ∨ rest) :
    P (s.runRounds env waves n) ∨ rest := by
  induction n generalizing s waves with
  | zero =>
    rcases h with holds | ⟨w, member, inside, -⟩ | other
    · exact Or.inl holds
    · rw [List.length_eq_zero_iff.1 (Nat.le_zero.1 (short w member))] at inside
      exact absurd inside List.not_mem_nil
    · exact Or.inr other
  | succ n ih =>
    have first := t.runRound inside known fits sound admits h
    have fits' : (s.runRound env waves).1.Fits form g :=
      runRound_preserves (Q := fun t => t.Fits form g)
        (fun _ _ _ _ id _ fits => fits.refreshDependent id) fits
    rw [← runRound_snd s env] at first
    refine ih fits' (fun v member => ?_) (fun v member => ?_) (fun v member => ?_) first
    all_goals
      rw [runRound_snd] at member
      rcases List.mem_map.1 member with ⟨w, inside, rfl⟩
    · exact (sound w inside).next
    · exact fun changed turn => admits w inside changed turn.of_next
    · exact Wave.length_next (short w inside)

/-- **Spreading.** A fact that holds, or that the wave of some origin brings about, holds when the
changes of the origins have spread. -/
theorem spread (t : Follows E A form g f context P) (inside : E env)
    (known : form.field? f.id = some f) (h : g.Represents form) (fits : s.Fits form g)
    {origins : List String} (admits : ∀ o ∈ origins, g.Admits A f.id o)
    (owed : P s ∨ (∃ o ∈ origins, (g.start o).Brings context f.id) ∨ rest) :
    P (s.spread env origins) ∨ rest := by
  have waves : origins.map s.wave = origins.map g.start := by
    refine List.map_congr_left fun o _ => ?_
    rw [Session.wave, fits.ofGraph, Graph.start]
  unfold Session.spread
  rw [waves]
  refine t.runRounds inside known fits (fun w member => ?_) (fun w member => ?_)
    (fun w member => ?_) ?_
  · rcases List.mem_map.1 member with ⟨o, -, rfl⟩
    exact h.sound_start o
  · rcases List.mem_map.1 member with ⟨o, among, rfl⟩
    exact admits o among
  · have inside : w.levels.length ∈ 0 :: (origins.map g.start).map fun w => w.levels.length :=
      List.mem_cons_of_mem _ (List.mem_map_of_mem member)
    exact (List.max?_eq_some_iff.1 List.max?_cons').2 _ inside
  · refine owed.imp_right (Or.imp_left ?_)
    intro facts
    obtain ⟨o, member, brings⟩ := facts
    exact ⟨g.start o, List.mem_map_of_mem member, brings⟩

/-- Reacting to firings spreads the changes of the origins that they start. -/
theorem react (t : Follows E A form g f context P) (inside : E env)
    (known : form.field? f.id = some f) (h : g.Represents form) (fits : s.Fits form g)
    {firings : List (Firing String)}
    (admits : ∀ o ∈ firings.filterMap startedOrigin?, g.Admits A f.id o)
    (owed : P s ∨ (∃ o ∈ firings.filterMap startedOrigin?, (g.start o).Brings context f.id) ∨
      rest) :
    P (s.react env firings) ∨ rest := by
  unfold Session.react
  rw [← List.flatten_splitBy (fun a b => a.time == b.time) firings] at owed admits
  generalize firings.splitBy (fun a b => a.time == b.time) = groups at owed admits ⊢
  induction groups generalizing s with
  | nil =>
    rcases owed with holds | ⟨o, member, -⟩ | other
    · exact Or.inl holds
    · exact absurd member List.not_mem_nil
    · exact Or.inr other
  | cons group groups ih =>
    rw [List.flatten_cons, List.filterMap_append] at admits
    refine ih (fits.spread _) ?_ fun o member => admits o (List.mem_append_right _ member)
    refine t.spread inside known h fits
      (fun o member => admits o (List.mem_append_left _ member)) ?_
    rcases owed with holds | ⟨o, member, brings⟩ | other
    · exact Or.inl holds
    · rw [List.flatten_cons, List.filterMap_append, List.mem_append] at member
      rcases member with now | later
      · exact Or.inr (Or.inl ⟨o, now, brings⟩)
      · exact Or.inr (Or.inr (Or.inl ⟨o, later, brings⟩))
    · exact Or.inr (Or.inr (Or.inr other))

end Follows

/-- A fact that is followed over one store, whatever the present is and whatever has changed. -/
structure Tracks (form : Definition) (g : Graph) (store : DocumentStore) (f : Field)
    (context : List String) (P : Session → Prop) : Prop where
  sources : ∀ x ∈ context, form.Edge x f.id
  timeless : ∀ (s : Session) (schedule : Schedule String), P s → P { s with schedule := schedule }
  others : ∀ (s : Session) now f' change, s.Fits form g → f'.id ≠ f.id → f'.id ∉ context → P s →
    P (s.refresh ⟨store, now⟩ f' change)
  renewed : ∀ (s : Session) now changed trigger, s.Fits form g → (∃ x ∈ context, x ∈ changed) →
    P (s.refresh ⟨store, now⟩ f (.others changed trigger))
  kept : ∀ (s : Session) now changed trigger, s.Fits form g → (¬ ∃ x ∈ context, x ∈ changed) →
    P s → P (s.refresh ⟨store, now⟩ f (.others changed trigger))

theorem Tracks.follows {store : DocumentStore} {context : List String} {P : Session → Prop}
    (t : Tracks form g store f context P) :
    Follows (fun env => env.store = store) (fun _ => True) form g f context P where
  sources := t.sources
  timeless := t.timeless
  others := by
    rintro s ⟨_, now⟩ f' change rfl
    exact t.others s now f' change
  renewed := by
    rintro s ⟨_, now⟩ changed trigger rfl -
    exact t.renewed s now changed trigger
  kept := by
    rintro s ⟨_, now⟩ changed trigger rfl -
    exact t.kept s now changed trigger

end Formulary.Form
