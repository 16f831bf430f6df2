import Formulary.Proofs.Choice
import Formulary.Proofs.LastEdit

/-!
# Edits that are refused

A text that is no date, or no time, leaves the field with the value it has, and a warning. The wave
of the edit runs all the same. It brings every field that refers to the edited one back to its
content, so that a value which the user has given there is lost.

* `Fits.values_propagate_iff`: a wave changes no value just if no field, computed by itself on the
  values as they are, comes to another one.
* `refused_edit`: what a refused edit leaves behind.
-/

namespace Formulary.Form

open Relation (ReflTransGen)

variable {form : Definition} {g : Graph} {f : Field} {raw : String} {e : CoercionError}

/-! ## The warning -/

/-- What the user is told of a value that does not fit the kind of the field. -/
def CoercionError.warning (e : CoercionError) (f : Field) : Notice :=
  .warning (f.label ++ ": " ++ e.message)

/-- An empty text is never refused. -/
theorem isEmpty_of_refused {kind : Kind} {limits : Limits}
    (refused : coerce kind limits (.string raw) = .error e) : raw.isEmpty = false := by
  cases empty : raw.isEmpty with
  | false => rfl
  | true =>
    unfold coerce at refused
    rw [isEmptyValue, empty, if_pos rfl] at refused
    cases refused

namespace Surroundings

variable {s : Surroundings}

/-- Of a user's value only the value and the visibility are computed. -/
theorem refresh_user : s.refresh f (.user raw) =
    s.refreshValue f (.user raw) >>= fun _ => s.refreshVisibility f (.user raw) := by
  have options : s.refreshOptions f (.user raw) = pure () := by
    unfold refreshOptions
    split <;> rfl
  have limits : s.refreshLimits f (.user raw) = pure () := by
    have unneeded (name : PropertyName) (limit : Option (Template.Property Binary64))
        (set : Binary64 → Limits → Limits) :
        s.refreshLimit f (.user raw) name limit set = pure () := by
      cases limit <;> rfl
    unfold refreshLimits
    split
    · rw [unneeded, unneeded, unneeded]
      rfl
    · rfl
  have placeholder : s.refreshPlaceholder f (.user raw) = pure () := by
    unfold refreshPlaceholder
    split <;> rfl
  have description : s.refreshDescription f (.user raw) = pure () := by
    unfold refreshDescription
    split <;> rfl
  unfold refresh
  rw [options, limits, placeholder, description]
  rfl

/-- A value that is refused is answered with a warning, before all else that goes on record. -/
theorem exists_trace_of_refused {p : Progress}
    (refused : coerce f.kind p.own.limits (.string raw) = .error e) :
    ∃ more, ((s.refresh f (.user raw)).run p).2.trace =
      p.trace.append (.append ⟨[], [e.warning f]⟩ more) := by
  have filled := isEmpty_of_refused refused
  have warned : (s.refreshValue f (.user raw)).run p =
      ((), { p with trace := p.trace.append ⟨[], [e.warning f]⟩ }) := by
    have proposal : s.proposal f (.user raw) = pure (some (.string raw)) := by
      unfold proposal
      dsimp only
      rw [filled]
      rfl
    have read : own.run p = (p.own, p) := rfl
    unfold refreshValue
    rw [proposal, pure_bind]
    dsimp only
    rw [StateT.run_bind, read]
    show StateT.run _ p = _
    rw [refused]
    show ((), { p with trace := ((Template.raise (e.warning f)).run p.trace).2 }) = _
    rw [Template.recording_raise]
    rfl
  have about : About f.id (s.refreshVisibility f (.user raw)) := about_refreshVisibility
  obtain ⟨more, ran⟩ := about.run { p with trace := p.trace.append ⟨[], [e.warning f]⟩ }
  refine ⟨more, ?_⟩
  rw [refresh_user]
  show ((s.refreshVisibility f (.user raw)).run
    ((s.refreshValue f (.user raw)).run p).2).2.trace = _
  rw [warned, ran, Template.Trace.append_assoc]

end Surroundings

namespace Session

variable {s t : Session} {env : Environment} {old : FieldState} {origin : String}

theorem exists_notices_of_refused (env : Environment) (present : s.state? f.id = some old)
    (refused : coerce f.kind old.limits (.string raw) = .error e) :
    ∃ more, (s.refresh env f (.user raw)).trace.notices =
      s.trace.notices ++ e.warning f :: more := by
  have own : (s.state? f.id).getD (FieldState.created f) = old := by
    rw [present]
    rfl
  obtain ⟨more, noted⟩ := Surroundings.exists_trace_of_refused (s := s.surroundings env)
    (p := ⟨old, [], s.trace⟩) refused
  refine ⟨more.notices, ?_⟩
  unfold refresh
  dsimp only
  rw [own]
  exact congrArg Template.Trace.notices noted

/-- A refused value leaves all values. -/
theorem Fits.value?_of_refused (fits : s.Fits form g) (env : Environment)
    (member : f ∈ form.fields) (present : s.state? f.id = some old)
    (refused : coerce f.kind old.limits (.string raw) = .error e) (id : String) :
    (s.refresh env f (.user raw)).value? id = s.value? id := by
  by_cases same : id = f.id
  · obtain ⟨old', new, before, found, renews⟩ := fits.renews env (.user raw) member
    cases present.symm.trans before
    have proposed : (s.surroundings env).proposed f (.user raw) old = some (.string raw) := by
      rw [Surroundings.proposed, isEmpty_of_refused refused]
      rfl
    have kept := renews.value (Surroundings.isDropdown_of_refused refused)
    rw [renews.limits_of_user, proposed] at kept
    simp only [Surroundings.accepted, refused] at kept
    rw [same, value?, value?, found, present, Option.map_some, Option.map_some, kept]
  · exact value?_refresh_of_ne same

/-- Spreading changes adds to the record. -/
theorem exists_trace_spread (s : Session) (env : Environment) (origins : List String) :
    ∃ more, (s.spread env origins).trace = s.trace.append more := by
  refine spread_preserves (Q := fun t => ∃ more, t.trace = s.trace.append more) ?_
    ⟨{}, (Template.Trace.append_empty _).symm⟩
  intro o _ t changed id _ added
  unfold refreshDependent
  cases t.form.field? id with
  | none => exact added
  | some f =>
    obtain ⟨more, before⟩ := added
    obtain ⟨later, shape⟩ := refresh_eq t env f
      (.others changed (((t.graph.sources id).find? (changed.contains ·)).getD o))
    refine ⟨more.append later, ?_⟩
    dsimp only
    rw [shape, ← Template.Trace.append_assoc, ← before]

/-! ## A wave that changes nothing -/

variable {changed : List String} {id i : String}

theorem state?_refreshDependent_of_ne (differs : i ≠ id) :
    (s.refreshDependent env origin changed id).state? i = s.state? i := by
  unfold refreshDependent
  cases found : s.form.field? id with
  | none => rfl
  | some f =>
    obtain ⟨-, rfl⟩ := Definition.mem_of_field? found
    exact state?_refresh_of_ne differs

/-- Computing a field comes to the same in sessions with the same values. -/
theorem Fits.state?_refreshDependent_congr (fits : s.Fits form g) (fits' : t.Fits form g)
    (own : t.state? id = s.state? id) (values : ∀ i, t.value? i = s.value? i) :
    (t.refreshDependent env origin changed id).state? id =
      (s.refreshDependent env origin changed id).state? id := by
  unfold Session.refreshDependent
  rw [fits.ofForm, fits'.ofForm, fits.ofGraph, fits'.ofGraph]
  cases found : form.field? id with
  | none => exact own
  | some f =>
    obtain ⟨-, rfl⟩ := Definition.mem_of_field? found
    have graphs : t.graph = s.graph := fits'.ofGraph.trans fits.ofGraph.symm
    dsimp only
    rw [state?_refresh, state?_refresh, own,
      computed_congr graphs own fun _ i _ _ => values i]

/-- The wave of `s` has come to `t`. The fields that are to come are as they were. Of the others
either none has another value, and none would have by itself, or one has, and it would by itself. -/
structure Midway (s t : Session) (env : Environment) (origin : String) (coming : List String) :
    Prop where
  once : coming.Nodup
  untouched : ∀ id ∈ coming, t.state? id = s.state? id
  past : ((∀ id, t.value? id = s.value? id) ∧
      ∀ changed id, (s.wave origin).Turn changed id → id ∉ coming →
        (s.refreshDependent env origin changed id).value? id = s.value? id) ∨
    ∃ changed id, (s.wave origin).Turn changed id ∧ id ∉ coming ∧ t.value? id ≠ s.value? id ∧
      (s.refreshDependent env origin changed id).value? id ≠ s.value? id

/-- One turn. -/
theorem Midway.turn {coming : List String} (midway : Midway s t env origin (id :: coming))
    (fits : s.Fits form g) (fits' : t.Fits form g) (once : (s.graph.wave origin).flatten.Nodup)
    (turn : (s.wave origin).Turn changed id) :
    Midway s (t.refreshDependent env origin changed id) env origin coming := by
  obtain ⟨unmet, fresh⟩ := List.nodup_cons.1 midway.once
  have others {i : String} (differs : i ≠ id) :
      (t.refreshDependent env origin changed id).value? i = t.value? i := by
    rw [value?, state?_refreshDependent_of_ne differs]
    rfl
  refine ⟨fresh, fun i inside => ?_, ?_⟩
  · rw [state?_refreshDependent_of_ne (ne_of_mem_of_not_mem inside unmet)]
    exact midway.untouched i (List.mem_cons_of_mem _ inside)
  · rcases midway.past with ⟨values, kept⟩ | ⟨changed', i, turn', past, differs, differs'⟩
    · have alone : (t.refreshDependent env origin changed id).value? id =
          (s.refreshDependent env origin changed id).value? id := by
        rw [value?, value?, fits.state?_refreshDependent_congr fits'
          (midway.untouched id List.mem_cons_self) values]
      by_cases same : (s.refreshDependent env origin changed id).value? id = s.value? id
      · refine Or.inl ⟨fun i => ?_, fun changed' i turn' past => ?_⟩
        · by_cases here : i = id
          · rw [here, alone, same]
          · rw [others here, values i]
        · by_cases here : i = id
          · subst here
            rw [Wave.Turn.unique once turn' turn]
            exact same
          · exact kept changed' i turn' (by simp [here, past])
      · refine Or.inr ⟨changed, id, turn, unmet, ?_, same⟩
        rw [alone]
        exact same
    · have apart : i ≠ id := fun here => past (here ▸ List.mem_cons_self)
      refine Or.inr ⟨changed', i, turn', fun late => past (List.mem_cons_of_mem _ late), ?_,
        differs'⟩
      rw [others apart]
      exact differs

/-- **A wave changes no value just if no field of it, computed by itself on the values as they are,
comes to another one.** -/
theorem Fits.values_propagate_iff (fits : s.Fits form g) (h : g.Represents form)
    (env : Environment) (origin : String) :
    (∀ id, (s.propagate env origin).value? id = s.value? id) ↔
      ∀ changed id, (s.wave origin).Turn changed id →
        (s.refreshDependent env origin changed id).value? id = s.value? id := by
  have once : (s.graph.wave origin).flatten.Nodup := by
    rw [fits.ofGraph]
    exact (h.sound_start origin).once
  have ends : (s.propagate env origin).Fits form g ∧
      Midway s (s.propagate env origin) env origin [] := by
    refine propagate_turns (P := fun coming t => t.Fits form g ∧ Midway s t env origin coming)
      ?_ ⟨fits, once, fun _ _ => rfl, Or.inl ⟨fun _ => rfl, ?_⟩⟩
    · rintro t changed id coming turn ⟨fits', midway⟩
      exact ⟨fits'.refreshDependent id, midway.turn fits fits' once turn⟩
    · intro changed id turn unmet
      exact absurd turn.mem_flatten unmet
  rcases ends.2.past with ⟨values, kept⟩ | ⟨changed, id, turn, -, differs, differs'⟩
  · exact iff_of_true values fun changed id turn => kept changed id turn List.not_mem_nil
  · exact iff_of_false (fun same => differs (same id)) fun same => differs' (same changed id turn)

/-! ## Refused edits -/

/-- Only dates and times refuse values, and these are not continuous. -/
theorem isContinuous_of_refused {kind : Kind} {limits : Limits} {v : Json}
    (refused : coerce kind limits v = .error e) : kind.isContinuous = false := by
  cases kind with
  | date | time | dropdown _ | toggle => rfl
  | _ =>
    unfold coerce at refused
    split at refused <;> cases refused

/-- The wave of a refused edit runs at once. -/
theorem editField_of_refused {limits : Limits}
    (refused : coerce f.kind limits (.string raw) = .error e) :
    s.editField env f raw = (s.refresh env f (.user raw)).propagate env f.id := by
  rw [editField, isContinuous_of_refused refused]
  rfl

theorem schedule_editField_of_refused {limits : Limits}
    (refused : coerce f.kind limits (.string raw) = .error e) :
    (s.editField env f raw).schedule = s.schedule := by
  rw [editField_of_refused refused, propagate, schedule_spread]
  rfl

/-- Nothing is left to settle after it. -/
theorem Fits.act_settle_of_refused (fits : s.Fits form g) (h : g.Represents form)
    (member : f ∈ form.fields) {limits : Limits}
    (refused : coerce f.kind limits (.string raw) = .error e) (idle : s.schedule.isIdle = true)
    (env env' : Environment) :
    (s.act env (.edit f.id raw)).act env' .settle = s.editField env f raw := by
  rw [fits.act_edit_self h member]
  refine settle_of_isIdle ?_
  rw [schedule_editField_of_refused refused]
  exact idle

section Edited

variable (fits : s.Fits form g) (h : g.Represents form) (member : f ∈ form.fields)
  (present : s.state? f.id = some old)
  (refused : coerce f.kind old.limits (.string raw) = .error e)

include present refused in
/-- The user is warned before anything else goes on record. -/
theorem exists_notices_editField : ∃ more,
    (s.editField env f raw).trace.notices = s.trace.notices ++ e.warning f :: more := by
  obtain ⟨more, noted⟩ := exists_notices_of_refused env present refused
  obtain ⟨later, added⟩ := exists_trace_spread (s.refresh env f (.user raw)) env [f.id]
  refine ⟨more ++ later.notices, ?_⟩
  rw [editField_of_refused refused, propagate, added, Template.Trace.append, noted,
    List.append_assoc, List.cons_append]

include fits h member present refused in
/-- The values stay just if every field that the wave comes to keeps its own when it is computed by
itself, as if there had been no edit. -/
theorem Fits.values_editField_iff :
    (∀ id, (s.editField env f raw).value? id = s.value? id) ↔
      ∀ changed id, (s.wave f.id).Turn changed id →
        (s.refreshDependent env f.id changed id).value? id = s.value? id := by
  have same := fits.value?_of_refused env member present refused
  have alone {changed : List String} {id : String} (turn : (s.wave f.id).Turn changed id) :
      ((s.refresh env f (.user raw)).refreshDependent env f.id changed id).value? id =
        (s.refreshDependent env f.id changed id).value? id := by
    have differs : id ≠ f.id := by
      rintro rfl
      rw [wave, fits.ofGraph] at turn
      have unchanged := (h.of_turn turn).1
      obtain ⟨before, level, rest, -, -, rfl⟩ := turn
      exact unchanged List.mem_cons_self
    have own : (s.refresh env f (.user raw)).state? id = s.state? id :=
      state?_refresh_of_ne differs
    rw [value?, value?, fits.state?_refreshDependent_congr fits.refresh own same]
  have edited : (s.refresh env f (.user raw)).Fits form g := fits.refresh
  have spread := edited.values_propagate_iff h env f.id
  simp only [same] at spread
  rw [editField_of_refused refused, spread]
  refine forall_congr' fun changed => forall_congr' fun id => forall_congr' fun turn => ?_
  rw [alone turn]

variable {d : Field} (inside : d ∈ form.fields)

include fits h member present refused inside in
/-- What is not computed from anything that depends on the field stays. -/
theorem Holds.editField_of_refused {value : String} (holds : s.Holds d value)
    (spared : form.Spares f.id d) : (s.editField env f raw).Holds d value := by
  have held : (s.refresh env f (.user raw)).Holds d value := by
    by_cases own : f.id = d.id
    · cases List.inj_on_of_nodup_map h.unique member inside own
      have same := fits.value?_of_refused env member present refused f.id
      exact holds_of_value? (Surroundings.isDropdown_of_refused refused) (same.trans holds.value?)
    · exact holds.refresh_other own
  rw [Session.editField_of_refused refused]
  refine held.spread fits.refresh h inside fun o started => ?_
  rw [List.mem_singleton.1 started]
  exact spared

include fits h refused inside in
/-- What is computed from something that depends on the field goes back to its content. -/
theorem Fits.shows_editField_of_refused (idle : s.schedule.isIdle = true)
    (simple : d.kind.isSimple = true) (steady : d.Steady env.store .value)
    (fed : ¬ form.Spares f.id d) (now : Calendar.Instant) :
    (s.editField env f raw).Shows env.store now d .value := by
  obtain ⟨x, feeds, path⟩ : ∃ x, form.Feeds x d ∧ ReflTransGen form.Edge f.id x := by
    by_contra none
    exact fed fun x feeds path => none ⟨x, feeds, path⟩
  have tracks : Tracks form g env.store d (g.context d.id .value)
      fun s => s.Shows env.store now d .value := tracks_shows h inside steady
  refine (tracks.editField (Definition.field?_of_mem h.unique inside) h fits
    (Or.inr (Or.inl (brings_of_feeds h inside simple feeds path)))).resolve_right ?_
  refine not_owes_of_isIdle ?_
  rw [schedule_editField_of_refused refused]
  exact idle

end Edited

/-- **What a refused edit leaves behind.** The user is warned, in the name of the field. All values
stay just if every field that depends on this one keeps its own when it is computed by itself. Those
stay that are not computed from anything that depends on this one; of the others, those of a simple
kind go back to their content. -/
theorem refused_edit {debounce : Nat} {u : Session} {edited settled : Environment}
    (reached : u.Reached form debounce) (idle : u.schedule.isIdle = true)
    (member : f ∈ form.fields) (present : u.state? f.id = some old)
    (refused : coerce f.kind old.limits (.string raw) = .error e)
    (ran : t = (u.act edited (.edit f.id raw)).act settled .settle) :
    (∃ more, t.trace.notices = u.trace.notices ++ e.warning f :: more) ∧
      ((∀ id, t.value? id = u.value? id) ↔
        ∀ changed id, (u.wave f.id).Turn changed id →
          (u.refreshDependent edited f.id changed id).value? id = u.value? id) ∧
      (∀ d ∈ form.fields, form.Spares f.id d → t.value? d.id = u.value? d.id) ∧
      ∀ d ∈ form.fields, d.kind.isSimple = true → d.Steady edited.store .value →
        ¬ form.Spares f.id d → ∀ now, t.Shows edited.store now d .value := by
  obtain ⟨g, h, fits⟩ := reached.fits
  rw [ran, fits.act_settle_of_refused h member refused idle]
  refine ⟨exists_notices_editField present refused,
    fits.values_editField_iff h member present refused, fun d inside spared => ?_,
    fun d inside simple steady fed now =>
      fits.shows_editField_of_refused h refused inside idle simple steady fed now⟩
  obtain ⟨state, found, fresh⟩ := (reached.upholds (lasts_fresh form)).fields d inside
  have holds : u.Holds d state.value := ⟨state, found, rfl, fresh⟩
  rw [holds.value?]
  exact (holds.editField_of_refused fits h member present refused inside spared).value?

/-! ## An example -/

def beginning : Field :=
  { id := "start", label := "Start", kind := .time, content := some (.fixed "9:00") }

def caption : Field :=
  { id := "label", label := "Label", kind := .text, content := some (.expression "{{$$.start}}") }

def shift : Definition := { title := "Shift", fields := [beginning, caption] }

theorem beginning_mem : beginning ∈ shift.fields := List.mem_cons_self

theorem caption_mem : caption ∈ shift.fields := List.mem_cons_of_mem _ List.mem_cons_self

theorem start_shift : ∃ s, start shift defaultDebounce = .ok s :=
  exists_ok_of_isSome (by decide +kernel)

/-- No time is read from the text, whatever the limits. -/
theorem refused_soon (limits : Limits) :
    coerce beginning.kind limits (.string "soon") = .error (.time "soon") := by
  have refused : coerceTime (.string "soon") = .error (.time "soon") := by
    decide +kernel
  exact refused

theorem refersTo_start : Template.RefersTo "{{$$.start}}" "start".toList where
  whole := by decide +kernel
  alone := by decide +kernel

theorem mentions_start {id : String} :
    Template.Mentions "{{$$.start}}".toList id.toList ↔ id = "start" := by
  have read : Template.referencedFields "{{$$.start}}".toList = ["start"] := by
    decide +kernel
  rw [← Template.mem_referencedFields, read, List.mem_singleton]

theorem steady_caption {store : DocumentStore} : caption.Steady store .value := by
  intro raw text
  cases text
  refine ⟨fun mentioned => ?_, refersTo_start.clockFree⟩
  exact absurd (mentions_start.1 mentioned) (by decide)

/-- Nothing feeds the start; it feeds the label. -/
theorem spares_beginning {o : String} : shift.Spares o beginning := by
  rintro x ⟨-, -, p, source, -⟩ -
  cases source

theorem not_spares_caption : ¬ shift.Spares "start" caption := by
  intro spared
  refine spared "start" ?_ .refl
  have known : "start" ∈ shift.ids := List.mem_map_of_mem beginning_mem
  exact ⟨known, by decide, (.value, "{{$$.start}}"), by decide, Or.inl rfl, mentions_start.2 rfl⟩

/-- At first the start is nine o'clock, from its content. -/
theorem beginning_computeAll {store : DocumentStore} (h : g.Represents shift)
    (fits : s.Fits shift g) : (s.computeAll ⟨store, 0⟩).Holds beginning "09:00" := by
  have shown : (s.computeAll ⟨store, 0⟩).Shows store 0 beginning .value :=
    shows_computeAll h fits 0 0 beginning_mem (by rintro raw ⟨⟩)
  have taken : coerceTime (.string "9:00") = .ok "09:00" := by
    decide +kernel
  exact shown.holds rfl {} taken

/-- A start that is no time is refused, and stays. -/
theorem refused_edit_shift : ∃ s, start shift defaultDebounce = .ok s ∧
    ∀ (env : Environment) (u t : Session), u = s.computeAll env →
      t = (u.act env (.edit "start" "soon")).act env .settle →
      (∃ more, t.trace.notices = u.trace.notices ++
        .warning "Start: Unexpected format for time field. Expected is HH:mm" :: more) ∧
      t.value? "start" = u.value? "start" := by
  obtain ⟨s, started⟩ := start_shift
  refine ⟨s, started, ?_⟩
  rintro env u t reached ran
  have fits : u.Fits shift s.graph := by
    rw [reached]
    exact (fits_start started).computeAll env
  obtain ⟨old, present⟩ := fits.state? (List.mem_map_of_mem beginning_mem)
  have idle : u.schedule.isIdle = true := by
    rw [reached]
    exact isIdle_computeAll started env
  have reached : u.Reached shift defaultDebounce := by
    rw [reached]
    exact .allComputed env (.opened started)
  obtain ⟨warned, -, stays, -⟩ :=
    refused_edit reached idle beginning_mem present (refused_soon old.limits) ran
  exact ⟨warned, stays beginning beginning_mem spares_beginning⟩

/-- A label that the user has given is lost when a start is refused. -/
theorem caption_lost_shift : ∃ s, start shift defaultDebounce = .ok s ∧
    ∀ (store : DocumentStore) (u t : Session),
      u = (s.computeAll ⟨store, 0⟩).run store [(0, .edit "label" "Early"), (0, .settle)] →
      t = u.run store [(0, .edit "start" "soon"), (0, .settle)] →
      u.Reached shift defaultDebounce ∧ u.schedule.isIdle = true ∧
        (∀ limits, coerce beginning.kind limits (.string "soon") = .error (.time "soon")) ∧
        u.value? "label" = some "Early" ∧ t.value? "label" = some "09:00" := by
  obtain ⟨s, started⟩ := start_shift
  refine ⟨s, started, ?_⟩
  intro store u t reached ran
  have h := Graph.represents_of_ok (start_ok started).2.1
  have first := (fits_start started).computeAll ⟨store, 0⟩
  have fits : u.Fits shift s.graph := by
    rw [reached]
    exact first.run store _
  have idle : u.schedule.isIdle = true := by
    rw [reached]
    exact (first.act (.edit "label" "Early")).isIdle_settle ⟨store, 0⟩
  have nothing := isIdle_computeAll started ⟨store, 0⟩
  have named : u.value? "label" = some "Early" := by
    rw [reached]
    exact (first.holds_edit_settle h caption_mem nothing rfl fun _ => rfl).value?
  have given : u.Holds beginning "09:00" := by
    rw [reached]
    exact (beginning_computeAll h (fits_start started)).edit_settle first h beginning_mem nothing
      (by decide) spares_beginning
  obtain ⟨old, present⟩ := fits.state? (List.mem_map_of_mem beginning_mem)
  have refused := refused_soon old.limits
  have after : t = u.editField ⟨store, 0⟩ beginning "soon" := by
    rw [ran]
    exact fits.act_settle_of_refused h beginning_mem refused idle _ _
  have stays : t.value? "start" = some "09:00" := by
    rw [after]
    exact (given.editField_of_refused fits h beginning_mem present refused beginning_mem
      spares_beginning).value?
  have shown : t.Shows store 0 caption .value := by
    have steady : caption.Steady (Environment.mk store 0).store .value := steady_caption
    rw [after]
    exact fits.shows_editField_of_refused h refused caption_mem idle rfl steady not_spares_caption 0
  have reads : t.reads store 0 "{{$$.start}}" = .string "09:00" :=
    reads_reference refersTo_start (by decide +kernel) (by decide +kernel) stays
  refine ⟨?_, idle, refused_soon, named, (shown.holds rfl {} ?_).value?⟩
  · rw [reached]
    exact (Reached.allComputed _ (.opened started)).run store _
  · show coerce caption.kind {} (t.reads store 0 "{{$$.start}}") = _
    rw [reads]
    rfl

end Session

end Formulary.Form
