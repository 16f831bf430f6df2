import Formulary.Proofs.Picked
import Formulary.Proofs.Upkeep
import Mathlib

/-!
# Arrows walk the options of a dropdown

An arrow gives a dropdown the option beside the one it has. The options are distinct and none is
empty, so the form takes the one that is given as it is and leaves the options alone; the wave of
the dropdown does not come back to it. So arrows go round: the next option and the previous one undo
each other, and as many arrows as there are options come to each of them once (`course`).

A press may take the focus away, however: the form decides anew whether the dropdown is hidden, and
when it is, a field that becomes visible in the wave gets the focus. So this is said of arrows that
the dropdown is there for (`Console.Stays`); it is as long as nothing hides it.

* `Console.arrows_cycle`: what arrows do in a dropdown, one by one and together.
-/

namespace Formulary.Display

/-! ## Going round a list -/

section

variable {options : List String} {value : String} {forward : Bool}

/-- The option beside a value, going round. -/
def beside (options : List String) (forward : Bool) (value : String) : String :=
  if there : value ∈ options then
    if forward then options.next value there else options.prev value there
  else value

/-- The values that arrows give a dropdown, one after another. -/
def course (options : List String) : String → List Bool → List String
  | _, [] => []
  | value, forward :: forwards =>
    beside options forward value :: course options (beside options forward value) forwards

theorem beside_next (chosen : value ∈ options) :
    beside options true value = options.next value chosen := by
  rw [beside, dif_pos chosen, if_pos rfl]

theorem beside_prev (chosen : value ∈ options) :
    beside options false value = options.prev value chosen := by
  rw [beside, dif_pos chosen, if_neg Bool.false_ne_true]

theorem beside_mem (forward : Bool) (chosen : value ∈ options) :
    beside options forward value ∈ options := by
  cases forward with
  | true =>
    rw [beside_next chosen]
    exact List.next_mem ..
  | false =>
    rw [beside_prev chosen]
    exact List.prev_mem ..

/-- The two ways undo each other. -/
theorem beside_beside (once : options.Nodup) (forward : Bool) (chosen : value ∈ options) :
    beside options (!forward) (beside options forward value) = value := by
  cases forward with
  | true =>
    have there := List.next_mem options value chosen
    rw [beside_next chosen, Bool.not_true, beside_prev there]
    exact List.prev_next options once value chosen
  | false =>
    have there := List.prev_mem options value chosen
    rw [beside_prev chosen, Bool.not_false, beside_next there]
    exact List.next_prev options once value chosen

/-- A dropdown whose value is among its options gets the one beside it. -/
theorem FieldView.cycled?_eq {v : FieldView} (once : v.options.Nodup) (chosen : v.value ∈ v.options)
    (forward : Bool) : v.cycled? forward = some (beside v.options forward v.value) := by
  have within := List.idxOf_lt_length_iff.2 chosen
  have filled : 0 < v.options.length := Nat.zero_lt_of_lt within
  have place : v.options.idxOf? v.value = some (v.options.idxOf v.value) := by
    have index := List.idxOf_eq_getD_idxOf? v.value v.options
    cases found : v.options.idxOf? v.value with
    | none =>
      rw [found] at index
      exact absurd index within.ne
    | some i =>
      rw [found] at index
      rw [index, Option.getD_some]
  unfold cycled?
  dsimp only
  rw [place]
  dsimp only
  cases forward with
  | true =>
    rw [if_pos rfl, beside_next chosen, List.next_eq_getElem,
      List.getElem?_eq_getElem (Nat.mod_lt _ filled)]
  | false =>
    have back := List.prev_getElem v.options once (v.options.idxOf v.value) within
    simp only [List.getElem_idxOf] at back
    rw [if_neg Bool.false_ne_true, beside_prev chosen, back, Nat.add_sub_assoc filled,
      List.getElem?_eq_getElem (Nat.mod_lt _ filled)]

/-- Arrows to the right come to the options in order, from the one behind the value on. -/
theorem course_replicate (once : options.Nodup) (chosen : value ∈ options) {k : Nat}
    (short : k ≤ options.length) : course options value (List.replicate k true) =
      (options.rotate (options.idxOf value + 1)).take k := by
  induction k generalizing value with
  | zero => rfl
  | succ k ih =>
    have within := List.idxOf_lt_length_iff.2 chosen
    have filled : 0 < options.length := Nat.zero_lt_of_lt within
    have index : options.idxOf (options.next value chosen) =
        (options.idxOf value + 1) % options.length := by
      rw [List.next_eq_getElem, once.idxOf_getElem]
    have turned : options.rotate (options.idxOf value + 1) = options.next value chosen ::
        (options.rotate (options.idxOf value + 1)).tail := by
      refine (List.cons_head?_tail ?_).symm
      rw [← List.rotate_mod, List.head?_rotate (Nat.mod_lt _ filled), List.next_eq_getElem,
        List.getElem?_eq_getElem (Nat.mod_lt _ filled)]
      rfl
    have room : k ≤ (options.rotate (options.idxOf value + 1)).tail.length := by
      rw [List.length_tail, List.length_rotate]
      omega
    rw [List.replicate_succ, course, beside_next chosen, ih (List.next_mem ..) (by omega), index,
      ← List.rotate_rotate, List.rotate_mod, turned, List.take_succ_cons, List.rotate_cons_succ,
      List.rotate_zero, List.take_append_of_le_length room]

/-- A whole round ends where it began. -/
theorem getLast?_course_replicate (once : options.Nodup) (chosen : value ∈ options) :
    (course options value (List.replicate options.length true)).getLast? = some value := by
  have within := List.idxOf_lt_length_iff.2 chosen
  have round : options.rotate (options.idxOf value) =
      value :: (options.rotate (options.idxOf value)).tail := by
    refine (List.cons_head?_tail ?_).symm
    rw [List.head?_rotate within, List.getElem?_eq_getElem within, List.getElem_idxOf]
    rfl
  rw [course_replicate once chosen le_rfl, List.take_of_length_le (List.length_rotate ..).le,
    ← List.rotate_rotate, round, List.rotate_cons_succ, List.rotate_zero]
  exact List.getLast?_concat

end

end Formulary.Display

/-! ## The form behind the dropdown -/

namespace Formulary.Form.Session

open Display (FormView)

variable {s : Session} {form : Definition} {g : Graph} {env : Environment} {f : Field}
  {state : FieldState} {raw : String} {view : FormView} {time : Nat}

/-- The wave of a dropdown leaves the focus on it. -/
theorem Fits.rests_editField_option (fits : s.Fits form g) (h : g.Represents form)
    (dropdown : f.kind.isDropdown = true) (found : s.state? f.id = some state)
    (filled : raw.isEmpty = false) (among : raw ∈ state.options.values) (quiet : s.updates = [])
    (rests : ((view.apply (.value f.id raw)).apply
      (.visible f.id !((s.surroundings env).picked f raw state).hidden)).Rests f.id) :
    ((s.editField env f raw).updates.foldl FormView.apply view).Rests f.id := by
  rw [editField_of_dropdown dropdown]
  refine spread_preserves (Q := fun t => (t.updates.foldl FormView.apply view).Rests f.id)
    (fun o started t changed i turn rests => ?_) ?_
  · obtain rfl := List.mem_singleton.1 started
    unfold Session.refreshDependent
    cases known : t.form.field? i with
    | none => exact rests
    | some f' =>
      obtain ⟨-, rfl⟩ := Definition.mem_of_field? known
      rw [updates_refresh, List.foldl_append]
      refine rests.foldl_apply fun u told same => ?_
      rw [said_computed u told] at same
      exact fits.not_mem_wave_self h (same ▸ turn.mem_flatten)
  · have told := Surroundings.outcome_refresh_option (s := s.surroundings env) dropdown filled among
    rw [updates_refresh, quiet, computed, found, Option.getD_some, told]
    exact rests

/-- While nothing waits, time passes and nothing else happens. -/
theorem sleep_of_isIdle (idle : s.schedule.isIdle = true) : ∃ schedule : Schedule String,
    schedule.isIdle = true ∧ s.sleep env time = { s with schedule := schedule } := by
  have none : s.schedule.advance waveTime time =
      ([], { s.schedule with now := s.schedule.now + time }) := by
    unfold Schedule.advance
    dsimp only
    rw [List.isEmpty_iff.1 idle, Schedule.runFrom]
  refine ⟨{ s.schedule with now := s.schedule.now + time }, idle, ?_⟩
  unfold sleep
  rw [none]
  rfl

end Formulary.Form.Session

namespace Formulary.Display

open Form (Definition Depicts Field FieldState Session)

/-- The arrow to the right, or to the left. -/
def Key.arrow (forward : Bool) : Key := ⟨if forward then .right else .left, false⟩

namespace Console

/-! ## Arrows and waits -/

/-- The form has the field with this value and these options, and the board shows both. -/
structure Presents (c : Console) (id value : String) (options : List String) : Prop where
  kept : ∃ state, c.session.state? id = some state ∧ state.value = value ∧
    state.options.values = options
  shown : ∃ v, c.board.form.named? id = some v ∧ v.value = value ∧ v.options = options

/-- The inputs are waits and arrows, which go these ways. -/
inductive Walk : List (Calendar.Instant × Input) → List Bool → Prop
  | done : Walk [] []
  | wait {inputs : List (Calendar.Instant × Input)} {forwards : List Bool}
    (now : Calendar.Instant) (time : Nat) (walk : Walk inputs forwards) :
    Walk ((now, .wait time) :: inputs) forwards
  | arrow {inputs : List (Calendar.Instant × Input)} {forwards : List Bool}
    (now : Calendar.Instant) (forward : Bool) (walk : Walk inputs forwards) :
    Walk ((now, .press (.arrow forward)) :: inputs) (forward :: forwards)

/-- The field has the focus at each of the inputs. -/
def Stays (id : String) : Console → List (Calendar.Instant × Input) → Prop
  | _, [] => True
  | c, step :: inputs => c.focus? = some id ∧ (c.take step).Stays id inputs

/-- The values that the field has after each key among the inputs. -/
def assigned (id : String) : Console → List (Calendar.Instant × Input) → List (Option String)
  | _, [] => []
  | c, (now, .press k) :: inputs =>
    (c.take (now, .press k)).session.value? id :: (c.take (now, .press k)).assigned id inputs
  | c, (now, .wait time) :: inputs => (c.take (now, .wait time)).assigned id inputs

variable {c : Console} {form : Definition} {f : Field} {state : FieldState} {v : FieldView}
  {forward : Bool} {forwards : List Bool} {inputs : List (Calendar.Instant × Input)}

theorem InUse.presents (used : InUse form c) (member : f ∈ form.fields)
    (dropdown : f.kind.isDropdown = true) (found : c.session.state? f.id = some state) :
    c.Presents f.id state.value state.options.values := by
  obtain ⟨v, shown, state', found', depicts⟩ := FormView.find?_of_forall₂ used.fields used.unique
    (fun _ _ ⟨_, _, depicts⟩ => depicts.id) member
  cases found.symm.trans found'
  have mirrors := depicts.dropdown dropdown
  exact ⟨⟨state, found, rfl, rfl⟩, v, shown, mirrors.value, mirrors.options⟩

/-- Without an error to dismiss a key goes to the field that has the focus. -/
theorem press_of_active (calm : c.board.error? = none) (active : c.board.form.active? = some v)
    (k : Key) : c.press k = c.pressIn v k := by
  unfold press
  rw [calm, active]
  rfl

theorem edit_of_field? {id : String} (known : c.session.form.field? id = some f) (value : String) :
    c.edit id value = { c with session := c.session.editField c.environment f value }.pump := by
  unfold Console.edit Session.edit? Session.field?
  rw [known]
  rfl

/-- An arrow in a dropdown gives the form the option beside the chosen one. -/
theorem pressIn_arrow (dropdown : v.kind.isDropdown = true) {value : String}
    (cycled : v.cycled? forward = some value) :
    c.pressIn v (.arrow forward) = c.edit v.id value := by
  have arrowed : c.arrowed? v forward = some value := by
    unfold arrowed?
    cases kind : v.kind with
    | dropdown options => exact cycled
    | _ => exact absurd dropdown (by rw [kind]; exact Bool.false_ne_true)
  cases forward with
  | true =>
    rw [show Key.arrow true = ⟨.right, false⟩ from rfl]
    unfold Console.pressIn
    dsimp only
    rw [decide_eq_true rfl, arrowed]
  | false =>
    rw [show Key.arrow false = ⟨.left, false⟩ from rfl]
    unfold Console.pressIn
    dsimp only
    rw [decide_eq_false (by decide), arrowed]

/-! ## One input -/

/-- The console is in use, with nothing to dismiss and nothing that waits, and the dropdown has a
choice. -/
structure Ready (form : Definition) (f : Field) (state : FieldState) (c : Console) : Prop where
  used : InUse form c
  calm : c.board.error? = none
  idle : c.session.schedule.isIdle = true
  found : c.session.state? f.id = some state
  chosen : state.value ∈ state.options.values

/-- What hides the field holds at an instant, of the values and the documents that there are. -/
def hides (c : Console) (f : Field) (now : Calendar.Instant) : Bool :=
  f.hiddenBy (c.session.reads (c.vault.documents c.tree) now)

/-- The console after the field was given a value. -/
def give (c : Console) (now : Calendar.Instant) (f : Field) (value : String) : Console :=
  ({ c with
    now := now
    session := c.session.editField ⟨c.vault.documents c.tree, now⟩ f value } : Console).pump

section

variable (ready : Ready form f state c) (member : f ∈ form.fields)
  (dropdown : f.kind.isDropdown = true)

include ready member in
/-- The field that has the focus is the dropdown. -/
theorem Ready.active (focused : c.focus? = some f.id) :
    ∃ v, c.board.form.active? = some v ∧ Depicts v f state := by
  obtain ⟨v, active, named⟩ := Option.map_eq_some_iff.1 focused
  obtain ⟨f', member', state', found, depicts⟩ := ready.used.active active
  cases List.inj_on_of_nodup_map ready.used.unique member' member (depicts.id.symm.trans named)
  cases ready.found.symm.trans found
  exact ⟨v, active, depicts⟩

include ready member dropdown

/-- The options of the dropdown are distinct, and none is empty. -/
theorem Ready.options : state.options.values.Nodup ∧ "" ∉ state.options.values := by
  obtain ⟨debounce, reached⟩ := ready.used.reached
  obtain ⟨state', found, sound⟩ :=
    (reached.upholds (Session.lasts_sound form)).fields f member
  cases ready.found.symm.trans found
  obtain ⟨values, sound⟩ := sound dropdown
  exact ⟨sound.once, sound.filled⟩

/-- The option that an arrow gives is not empty. -/
theorem Ready.isEmpty_beside (forward : Bool) :
    (beside state.options.values forward state.value).isEmpty = false := by
  refine Bool.eq_false_iff.2 fun empty => (ready.options member dropdown).2 ?_
  rw [← String.isEmpty_iff.1 empty]
  exact beside_mem forward ready.chosen

/-- **An arrow** gives the dropdown the option beside the one it has. -/
theorem Ready.take_arrow (focused : c.focus? = some f.id) (now : Calendar.Instant)
    (forward : Bool) : c.take (now, .press (.arrow forward)) =
      c.give now f (beside state.options.values forward state.value) := by
  obtain ⟨v, active, depicts⟩ := ready.active member focused
  have mirrors := depicts.dropdown dropdown
  have cycled := FieldView.cycled?_eq (v := v)
    (by rw [mirrors.options]; exact (ready.options member dropdown).1)
    (by rw [mirrors.options, mirrors.value]; exact ready.chosen) forward
  rw [mirrors.options, mirrors.value] at cycled
  have known : c.session.form.field? f.id = some f := by
    rw [ready.used.pictures.holds.displays.ofForm]
    exact Definition.field?_of_mem ready.used.unique member
  show ({ c with now := now } : Console).press (.arrow forward) = _
  rw [press_of_active (c := { c with now := now }) ready.calm active,
    pressIn_arrow (by rw [depicts.kind]; exact dropdown) cycled, depicts.id]
  exact edit_of_field? (c := { c with now := now }) known _

/-- The console is ready again after an arrow. -/
theorem Ready.arrow (focused : c.focus? = some f.id) (now : Calendar.Instant) (forward : Bool) :
    Ready form f ((c.session.surroundings ⟨c.vault.documents c.tree, now⟩).picked f
        (beside state.options.values forward state.value) state)
      (c.take (now, .press (.arrow forward))) := by
  obtain ⟨debounce, reached⟩ := ready.used.reached
  obtain ⟨g, h, fits⟩ := reached.fits
  have taken := ready.take_arrow member dropdown focused now forward
  have among := beside_mem forward ready.chosen
  refine ⟨ready.used.taken _, ?_, ?_, ?_, among⟩
  · rw [taken]
    exact (congrArg List.head? (board_notify _ _).1).trans ready.calm
  · rw [taken]
    show (c.session.editField _ f _).schedule.isIdle = true
    rw [Session.schedule_editField_of_dropdown dropdown]
    exact ready.idle
  · rw [taken]
    exact fits.state?_editField_option h dropdown ready.found
      (ready.isEmpty_beside member dropdown forward) among

/-- A press that does not hide the dropdown leaves the focus on it. -/
theorem Ready.focus?_arrow
    (foreign : ∀ source, f.hide = some source → ¬ Template.Mentions source.toList f.id.toList)
    (focused : c.focus? = some f.id) (now : Calendar.Instant) (shown : c.hides f now = false)
    (forward : Bool) : (c.take (now, .press (.arrow forward))).focus? = some f.id := by
  obtain ⟨debounce, reached⟩ := ready.used.reached
  obtain ⟨g, h, fits⟩ := reached.fits
  obtain ⟨v, active, depicts⟩ := ready.active member focused
  let raw := beside state.options.values forward state.value
  let picked := (c.session.surroundings ⟨c.vault.documents c.tree, now⟩).picked f raw state
  have visible : picked.hidden = false := (fits.hidden_picked h member foreign).trans shown
  have unique : (c.board.form.fields.map FieldView.id).Nodup := by
    rw [ready.used.ids]
    exact ready.used.unique
  have rests := ready.used.usable.rests_told unique active raw
  rw [depicts.id] at rests
  have told : ((c.board.form.apply (.value f.id raw)).apply
      (.visible f.id !picked.hidden)).Rests f.id := by
    rw [visible]
    exact rests
  obtain ⟨w, focus, named, -⟩ := fits.rests_editField_option h dropdown ready.found
    (ready.isEmpty_beside member dropdown forward) (beside_mem forward ready.chosen)
    ready.used.quiet told
  rw [ready.take_arrow member dropdown focused now forward]
  have board : (c.give now f raw).board.form.active? = some w := by
    show (List.foldl Board.notify _ _).form.active? = some w
    rw [form_notify]
    exact focus
  rw [focus?_of_active board, named]

/-- What hides the dropdown stays as it is. -/
theorem Ready.hides_arrow
    (foreign : ∀ source, f.hide = some source → ¬ Template.Mentions source.toList f.id.toList)
    (focused : c.focus? = some f.id) (now : Calendar.Instant) (forward : Bool) :
    (c.take (now, .press (.arrow forward))).hides f = c.hides f := by
  obtain ⟨debounce, reached⟩ := ready.used.reached
  obtain ⟨g, h, fits⟩ := reached.fits
  funext later
  rw [ready.take_arrow member dropdown focused now forward]
  exact fits.hiddenBy_editField h member dropdown foreign

end

/-! ## Waits -/

/-- Nothing happens in a wait. -/
theorem Ready.take_wait (ready : Ready form f state c) (now : Calendar.Instant) (time : Nat) :
    ∃ (schedule : Form.Schedule String) (notices : List Notice), schedule.isIdle = true ∧
      c.take (now, .wait time) = { c with
        now := now
        session := { c.session with
          schedule := schedule
          trace := { c.session.trace with notices := [] } }
        board := notices.foldl Board.notify c.board } := by
  obtain ⟨schedule, idle, slept⟩ : ∃ schedule : Form.Schedule String, schedule.isIdle = true ∧
      c.session.sleep ⟨c.vault.documents c.tree, now⟩ time =
        { c.session with schedule := schedule } :=
    Session.sleep_of_isIdle ready.idle
  refine ⟨schedule, c.session.trace.notices, idle, ?_⟩
  show ({ c with
    now := now
    session := c.session.sleep ⟨c.vault.documents c.tree, now⟩ time } : Console).pump = _
  rw [slept]
  unfold pump Session.drain
  dsimp only
  rw [ready.used.quiet]
  rfl

theorem Ready.wait (ready : Ready form f state c) (now : Calendar.Instant) (time : Nat) :
    Ready form f state (c.take (now, .wait time)) := by
  have used := ready.used.taken (now, .wait time)
  obtain ⟨schedule, notices, idle, taken⟩ := ready.take_wait now time
  rw [taken] at used ⊢
  exact {
    used := used
    calm := (congrArg List.head? (board_notify notices c.board).1).trans ready.calm
    idle := idle
    found := ready.found
    chosen := ready.chosen }

theorem Ready.focus?_wait (ready : Ready form f state c) (now : Calendar.Instant) (time : Nat) :
    (c.take (now, .wait time)).focus? = c.focus? := by
  obtain ⟨schedule, notices, -, taken⟩ := ready.take_wait now time
  rw [taken]
  exact congrArg (fun view : FormView => view.active?.map FieldView.id)
    (form_notify notices c.board)

theorem Ready.hides_wait (ready : Ready form f state c) (now : Calendar.Instant) (time : Nat) :
    (c.take (now, .wait time)).hides f = c.hides f := by
  obtain ⟨schedule, notices, -, taken⟩ := ready.take_wait now time
  rw [taken]
  rfl

/-! ## Arrows one after another -/

section

variable (member : f ∈ form.fields) (dropdown : f.kind.isDropdown = true)

include member dropdown

/-- **A walk** gives the dropdown one option after another, and ends with the last of them. -/
theorem Ready.run (walk : Walk inputs forwards) (ready : Ready form f state c)
    (stays : c.Stays f.id inputs) :
    c.assigned f.id inputs = (course state.options.values state.value forwards).map some ∧
      ∃ state', Ready form f state' (c.run inputs) ∧ state'.options = state.options ∧
        state'.value =
          ((course state.options.values state.value forwards).getLast?).getD state.value := by
  induction walk generalizing c state with
  | done => exact ⟨rfl, state, ready, rfl, rfl⟩
  | wait now time walk ih => exact ih (ready.wait now time) stays.2
  | @arrow inputs forwards now forward walk ih =>
    have moved := ready.arrow member dropdown stays.1 now forward
    obtain ⟨assigned, state', ready', options, value⟩ := ih moved stays.2
    have given : (c.take (now, .press (.arrow forward))).session.value? f.id =
        some (beside state.options.values forward state.value) := by
      rw [Session.value?, moved.found]
      rfl
    refine ⟨?_, state', ready', options, ?_⟩
    · rw [Console.assigned, given, assigned, course, List.map_cons]
      rfl
    · rw [value, course, List.getLast?_cons, Option.getD_some]
      rfl

theorem Ready.presents_arrow (ready : Ready form f state c) (focused : c.focus? = some f.id)
    (now : Calendar.Instant) (forward : Bool) :
    (c.take (now, .press (.arrow forward))).Presents f.id
      (beside state.options.values forward state.value) state.options.values := by
  have moved := ready.arrow member dropdown focused now forward
  exact moved.used.presents member dropdown moved.found

theorem Ready.presents_run (walk : Walk inputs forwards) (ready : Ready form f state c)
    (stays : c.Stays f.id inputs) :
    c.assigned f.id inputs = (course state.options.values state.value forwards).map some ∧
      (c.run inputs).Presents f.id
        (((course state.options.values state.value forwards).getLast?).getD state.value)
        state.options.values := by
  obtain ⟨assigned, state', ready', options, value⟩ := ready.run member dropdown walk stays
  refine ⟨assigned, ?_⟩
  rw [← value, ← options]
  exact ready'.used.presents member dropdown ready'.found

/-- The dropdown has the focus all the way if nothing hides it. -/
theorem Ready.stays
    (foreign : ∀ source, f.hide = some source → ¬ Template.Mentions source.toList f.id.toList)
    (walk : Walk inputs forwards) (ready : Ready form f state c)
    (focused : c.focus? = some f.id)
    (shown : ∀ now k, (now, .press k) ∈ inputs → c.hides f now = false) :
    c.Stays f.id inputs := by
  induction walk generalizing c state with
  | done => trivial
  | @wait inputs forwards now time walk ih =>
    refine ⟨focused, ih (ready.wait now time) ((ready.focus?_wait now time).trans focused) ?_⟩
    rw [ready.hides_wait now time]
    exact fun now k later => shown now k (List.mem_cons_of_mem _ later)
  | @arrow inputs forwards now forward walk ih =>
    have first := shown now _ List.mem_cons_self
    refine ⟨focused, ih (ready.arrow member dropdown focused now forward)
      (ready.focus?_arrow member dropdown foreign focused now first forward) ?_⟩
    rw [ready.hides_arrow member dropdown foreign focused now forward]
    exact fun now k later => shown now k (List.mem_cons_of_mem _ later)

end

/-- The arrows go round the options of a dropdown that has the focus. Several of them are said of
waits and arrows for which the dropdown is there. -/
structure Cycles (form : Definition) (c : Console) (v : FieldView) (chosen : v.value ∈ v.options) :
    Prop where
  once : v.options.Nodup
  next : ∀ now, (c.take (now, .press (.arrow true))).Presents v.id
    (v.options.next v.value chosen) v.options
  previous : ∀ now, (c.take (now, .press (.arrow false))).Presents v.id
    (v.options.prev v.value chosen) v.options
  back : ∀ forward inputs, Walk inputs [forward, !forward] → c.Stays v.id inputs →
    (c.run inputs).Presents v.id v.value v.options
  /-- From the next option on each is assigned in turn, and the chosen one last. -/
  round : ∀ inputs, Walk inputs (List.replicate v.options.length true) → c.Stays v.id inputs →
    c.assigned v.id inputs =
        (v.options.rotate (v.options.idxOf v.value + 1)).map some ∧
      (c.run inputs).Presents v.id v.value v.options
  /-- The dropdown is there as long as what hides it, which does not read it, does not hold. -/
  stays : ∀ f ∈ form.fields, f.id = v.id →
    (∀ source, f.hide = some source → ¬ Template.Mentions source.toList f.id.toList) →
    ∀ inputs forwards, Walk inputs forwards →
      (∀ now k, (now, .press k) ∈ inputs → c.hides f now = false) → c.Stays v.id inputs

/-- **Arrows walk the options of a dropdown as a cycle.** In a console in use, with no error and
nothing waiting, where a dropdown with a choice has the focus, the arrow to the right gives it the
next option and the one to the left the previous one. While the dropdown is there for them, the two
undo each other, and as many arrows as there are options give it each once and lead back. -/
theorem arrows_cycle (used : InUse form c) (calm : c.board.error? = none)
    (idle : c.session.schedule.isIdle = true) (active : c.board.form.active? = some v)
    (dropdown : v.kind.isDropdown = true) (chosen : v.value ∈ v.options) :
    c.Cycles form v chosen := by
  obtain ⟨f, member, state, found, depicts⟩ := used.active active
  rw [depicts.kind] at dropdown
  have mirrors := depicts.dropdown dropdown
  have focused : c.focus? = some f.id := (focus?_of_active active).trans (congrArg some depicts.id)
  have ready : Ready form f state c := by
    refine ⟨used, calm, idle, found, ?_⟩
    rw [← mirrors.options, ← mirrors.value]
    exact chosen
  have once : v.options.Nodup := by
    rw [mirrors.options]
    exact (ready.options member dropdown).1
  have one (now : Calendar.Instant) (forward : Bool) :
      (c.take (now, .press (.arrow forward))).Presents v.id (beside v.options forward v.value)
        v.options := by
    rw [depicts.id, mirrors.options, mirrors.value]
    exact ready.presents_arrow member dropdown focused now forward
  have walked {inputs : List (Calendar.Instant × Input)} {forwards : List Bool}
      (walk : Walk inputs forwards) (stays : c.Stays v.id inputs) :
      c.assigned v.id inputs = (course v.options v.value forwards).map some ∧
        (c.run inputs).Presents v.id (((course v.options v.value forwards).getLast?).getD v.value)
          v.options := by
    rw [depicts.id] at stays ⊢
    rw [mirrors.options, mirrors.value]
    exact ready.presents_run member dropdown walk stays
  refine ⟨once, fun now => ?next, fun now => ?previous, fun forward inputs walk stays => ?back,
    fun inputs walk stays => ?round, fun f' member' same foreign inputs forwards walk shown => ?stays⟩
  case next =>
    rw [← beside_next chosen]
    exact one now true
  case previous =>
    rw [← beside_prev chosen]
    exact one now false
  case back =>
    have there := (walked walk stays).2
    rw [course, course, course, beside_beside once forward chosen] at there
    exact there
  case round =>
    obtain ⟨assigned, there⟩ := walked walk stays
    rw [getLast?_course_replicate once chosen, Option.getD_some] at there
    rw [course_replicate once chosen le_rfl,
      List.take_of_length_le (List.length_rotate ..).le] at assigned
    exact ⟨assigned, there⟩
  case stays =>
    cases List.inj_on_of_nodup_map used.unique member' member (same.trans depicts.id)
    rw [← same]
    exact ready.stays member dropdown foreign walk focused shown

/-! ## A shop -/

def standard (hide : Option String) : Field :=
  { id := "standard", label := "Standard", kind := .toggle, hide := hide }

def size (hide : Option String) : Field :=
  { id := "size", label := "Size", kind := .dropdown (some (.fixed ["s", "m"])), hide := hide }

def reason (hide : Option String) : Field :=
  { id := "reason", label := "Reason", kind := .text, hide := hide }

/-- Something is ordered as it is usual, or in a size, and then with a reason. -/
def shop (hide why : Option String) : Definition :=
  { title := "Shop", fields := [standard hide, size hide, reason why] }

/-- The form is opened over an empty vault. -/
def openShop (hide why : Option String) : Except Form.Error Console :=
  open? (shop hide why) Session.defaultDebounce ⟨"v"⟩ ⟨[(["v"], .folder)], []⟩ none .note 0

/-- The form with all fields shown. -/
def openedShop : Console := (openShop none none).toOption.get (by decide +kernel)

theorem openShop_none : openShop none none = .ok openedShop := Session.eq_ok_get _

/-- The size as it is first shown. -/
def smallSize : FieldView :=
  { FieldView.ofField (size none) with value := "s", options := ["s", "m"] }

/-- Arrows go round the sizes. -/
theorem arrows_cycle_shop : ∃ (c : Console) (v : FieldView) (chosen : v.value ∈ v.options),
    InUse (shop none none) c ∧ c.board.error? = none ∧ c.session.schedule.isIdle = true ∧
    c.board.form.active? = some v ∧ v.kind.isDropdown = true ∧ v.options = ["s", "m"] ∧
    c.Cycles (shop none none) v chosen := by
  have used : InUse (shop none none) (openedShop.run [(0, .press ⟨.tab, false⟩)]) :=
    (InUse.opened openShop_none).run _
  have calm : (openedShop.run [(0, .press ⟨.tab, false⟩)]).board.error? = none := by
    decide +kernel
  have idle : (openedShop.run [(0, .press ⟨.tab, false⟩)]).session.schedule.isIdle = true := by
    decide +kernel
  have active : (openedShop.run [(0, .press ⟨.tab, false⟩)]).board.form.active? =
      some smallSize := by
    decide +kernel
  have chosen : smallSize.value ∈ smallSize.options := List.mem_cons_self
  exact ⟨_, smallSize, chosen, used, calm, idle, active, rfl, rfl,
    arrows_cycle used calm idle active rfl chosen⟩

/-! ### A size that is left -/

/-- What is usual needs no size, and no question about it. -/
def hidesSize : String := "{{$$.standard}}"

/-- A small size needs no reason. -/
def hidesReason : String := "\x7b\x7b$$.size == \"s\" ? \"yes\" : \"\"\x7d\x7d"

theorem refersTo_standard : Template.RefersTo hidesSize "standard".toList where
  whole := by decide +kernel
  alone := by decide +kernel

theorem evaluate_small (now : Calendar.Instant) :
    Script.evaluate now (Json.quoted "s".toList ++ " == \"s\" ? \"yes\" : \"\"".toList) =
      .ok (.string "yes") := by
  cbv

theorem evaluate_medium (now : Calendar.Instant) :
    Script.evaluate now (Json.quoted "m".toList ++ " == \"s\" ? \"yes\" : \"\"".toList) =
      .ok (.string "") := by
  cbv

section

variable {s : Session} {env : Form.Environment} {change : Form.Change} {text : String}

theorem refresh_hidesSize (given : s.hideContext env f change "standard" = some text)
    (plain : (Template.Parts.ofText text.toList).isLiteral = true)
    (whole : Script.textValue (Template.Parts.ofText text.toList).affixes = .string text) :
    s.refresh env { f with hide := some hidesSize } change =
      s.refresh env { f with hide := some text } change :=
  Session.refresh_hide_reference refersTo_standard (by decide +kernel) (by decide +kernel) given
    plain whole

theorem refresh_hidesReason {value : String}
    (given : s.hideContext env (reason none) change "size" = some value)
    (read : Script.evaluate env.now
      (Json.quoted value.toList ++ " == \"s\" ? \"yes\" : \"\"".toList) = .ok (.string text))
    (plain : (Template.Parts.ofText text.toList).isLiteral = true)
    (whole : Script.textValue (Template.Parts.ofText text.toList).affixes = .string text) :
    s.refresh env (reason (some hidesReason)) change =
      s.refresh env (reason (some text)) change := by
  refine Session.refresh_hide (f := reason none) ?_ plain whole
  have known : Template.fieldValue (s.hideContext env (reason none) change) "size".toList =
      value.toList := by
    unfold Template.fieldValue
    rw [show String.ofList "size".toList = "size" from rfl, given]
    rfl
  have follows : Template.fieldCuts (Template.Parts.ofText hidesReason.toList).expression =
      [.reference "size".toList, .text " == \"s\" ? \"yes\" : \"\"".toList] := by
    decide +kernel
  refine Template.evaluateText_follows (by decide +kernel) follows (by decide +kernel)
    (by decide +kernel) ?_
  rw [known]
  exact read

end

/-- The shop before anything is computed. -/
def startedShop : Session :=
  (Session.start (shop (some hidesSize) (some hidesReason)) Session.defaultDebounce).toOption.get
    (by decide +kernel)

theorem start_shop :
    Session.start (shop (some hidesSize) (some hidesReason)) Session.defaultDebounce =
      .ok startedShop :=
  Session.eq_ok_get _

def shownStandard : Session := startedShop.computeField planEnvironment (standard (some ""))

def shownSize : Session := shownStandard.computeField planEnvironment (size (some ""))

/-- At first the size is small, so there is no reason. -/
def shownShop : Session := shownSize.computeField planEnvironment (reason (some "yes"))

theorem computeAll_shop : startedShop.computeAll planEnvironment = shownShop := by
  have order : startedShop.graph.order.filterMap startedShop.form.field? =
      [standard (some hidesSize), size (some hidesSize), reason (some hidesReason)] := by
    decide +kernel
  have first : startedShop.computeField planEnvironment (standard (some hidesSize)) =
      shownStandard :=
    Session.computeField_hide (f := standard none)
      (refresh_hidesSize (by decide +kernel) (by decide +kernel) rfl)
  have second : shownStandard.computeField planEnvironment (size (some hidesSize)) = shownSize :=
    Session.computeField_hide (f := size none)
      (refresh_hidesSize (by decide +kernel) (by decide +kernel) rfl)
  have third : shownSize.computeField planEnvironment (reason (some hidesReason)) = shownShop :=
    Session.computeField_hide (f := reason none)
      (refresh_hidesReason (by decide +kernel) (evaluate_small _) (by decide +kernel) rfl)
  unfold Session.computeAll
  rw [order]
  show ((startedShop.computeField planEnvironment (standard _)).computeField planEnvironment
    (size _)).computeField planEnvironment (reason _) = _
  rw [first, second, third]

/-- The shop with what is hidden in it. -/
def hidingShop : Console := pump {
  session := shownShop
  board := { form := { title := "Shop", button := "Submit" } }
  vault := ⟨"v"⟩
  tree := ⟨[(["v"], .folder)], []⟩
  config := none
  destination := .note
  now := 0 }

theorem openShop_hiding : openShop (some hidesSize) (some hidesReason) = .ok hidingShop := by
  unfold openShop open?
  rw [start_shop]
  show Except.ok (pump { session := startedShop.computeAll planEnvironment, .. }) = _
  rw [computeAll_shop]
  rfl

def usualStandard : Session :=
  hidingShop.session.refresh planEnvironment (standard (some "true")) (.user "true")

def usualSize : Session :=
  usualStandard.refresh planEnvironment (size (some "true")) (.others ["standard"] "standard")

/-- What is usual is ordered, and all fields are hidden. -/
def usualShop : Console := pump { hidingShop with
  session := usualSize.refresh planEnvironment (reason (some "yes"))
    (.others ["standard", "size"] "size") }

theorem take_space : hidingShop.take (0, .press ⟨.char ' ', false⟩) = usualShop := by
  have active : hidingShop.board.form.active? =
      some (FieldView.ofField (standard (some hidesSize))) := by
    decide +kernel
  have known : hidingShop.session.form.field? "standard" = some (standard (some hidesSize)) := by
    decide +kernel
  have own : hidingShop.session.refresh planEnvironment (standard (some hidesSize))
      (.user "true") = usualStandard :=
    refresh_hidesSize (f := standard none) (by decide +kernel) (by decide +kernel) rfl
  have wave : usualStandard.graph.wave "standard" = [["size"], ["reason"]] := by
    decide +kernel
  have first : usualStandard.refreshDependent planEnvironment "standard" ["standard"] "size" =
      usualSize :=
    (Session.refreshDependent_eq (by decide +kernel) (by decide +kernel)).trans
      (refresh_hidesSize (f := size none) (by decide +kernel) (by decide +kernel) rfl)
  have second : usualSize.refreshDependent planEnvironment "standard" ["standard", "size"]
      "reason" = usualSize.refresh planEnvironment (reason (some "yes"))
        (.others ["standard", "size"] "size") :=
    (Session.refreshDependent_eq (by decide +kernel) (by decide +kernel)).trans
      (refresh_hidesReason (by decide +kernel) (evaluate_small _) (by decide +kernel) rfl)
  have spread : usualStandard.propagate planEnvironment "standard" =
      usualSize.refresh planEnvironment (reason (some "yes"))
        (.others ["standard", "size"] "size") := by
    rw [Session.propagate_eq, wave]
    show (usualStandard.refreshDependent planEnvironment "standard" ["standard"]
      "size").refreshDependent planEnvironment "standard" ["standard", "size"] "reason" = _
    rw [first, second]
  show hidingShop.press ⟨.char ' ', false⟩ = _
  rw [press_of_active (by decide +kernel) active]
  show hidingShop.edit "standard" "true" = _
  rw [edit_of_field? known]
  show pump { hidingShop with
    session := (hidingShop.session.refresh planEnvironment (standard (some hidesSize))
      (.user "true")).propagate planEnvironment "standard" } = _
  rw [own, spread]
  rfl

theorem active?_usualShop :
    usualShop.board.form.active? = some { smallSize with visible := false } := by
  decide +kernel

def mediumSize : Session :=
  usualShop.session.refresh planEnvironment (size (some "true")) (.user "m")

/-- The size that is still there was changed, and the reason is shown. -/
def mediumShop : Console := pump { usualShop with
  session := mediumSize.refresh planEnvironment (reason (some "")) (.others ["size"] "size") }

theorem take_right : usualShop.take (0, .press (.arrow true)) = mediumShop := by
  have known : usualShop.session.form.field? "size" = some (size (some hidesSize)) := by
    decide +kernel
  have own : usualShop.session.refresh planEnvironment (size (some hidesSize)) (.user "m") =
      mediumSize :=
    refresh_hidesSize (f := size none) (by decide +kernel) (by decide +kernel) rfl
  have wave : mediumSize.graph.wave "size" = [["reason"]] := by
    decide +kernel
  have spread : mediumSize.propagate planEnvironment "size" =
      mediumSize.refresh planEnvironment (reason (some "")) (.others ["size"] "size") := by
    rw [Session.propagate_eq, wave]
    exact (Session.refreshDependent_eq (by decide +kernel) (by decide +kernel)).trans
      (refresh_hidesReason (by decide +kernel) (evaluate_medium _) (by decide +kernel) rfl)
  show usualShop.press (.arrow true) = _
  rw [press_of_active (by decide +kernel) active?_usualShop]
  show usualShop.edit "size" "m" = _
  rw [edit_of_field? known]
  show pump { usualShop with
    session := (usualShop.session.refresh planEnvironment (size (some hidesSize))
      (.user "m")).propagate planEnvironment "size" } = _
  rw [own, spread]
  rfl

/-- **An arrow that is not undone.** With all fields hidden the size has the focus. The arrow to the
right makes the reason visible, which takes the focus, so the next arrow does not come to the size. -/
theorem not_arrows_cycle_shop : ∃ (c : Console) (v : FieldView),
    InUse (shop (some hidesSize) (some hidesReason)) c ∧
    c.board.error? = none ∧ c.session.schedule.isIdle = true ∧
    c.board.form.active? = some v ∧ v.id = "size" ∧ v.kind.isDropdown = true ∧
    v.value = "s" ∧ v.options = ["s", "m"] ∧
    ¬ Template.Mentions hidesSize.toList "size".toList ∧
    ∀ forward, (c.run [(0, .press (.arrow true)), (0, .press (.arrow forward))]).session.value?
      "size" = some "m" := by
  have used : InUse (shop (some hidesSize) (some hidesReason)) usualShop := by
    rw [← take_space]
    exact (InUse.opened openShop_hiding).taken _
  refine ⟨usualShop, _, used, by decide +kernel, by decide +kernel, active?_usualShop, rfl, rfl,
    rfl, rfl, ?_, fun forward => ?_⟩
  · rw [← Template.mem_referencedFields]
    decide +kernel
  · show ((usualShop.take (0, .press (.arrow true))).take
      (0, .press (.arrow forward))).session.value? "size" = _
    rw [take_right]
    cases forward <;> decide +kernel

end Console

end Formulary.Display
