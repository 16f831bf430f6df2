import Formulary.Proofs.Accord
import Mathlib.Data.List.Rotate

/-!
# The focus of a form that is shown

The focus goes round the visible fields. `FormView.round` lists their positions in the order in
which it comes to them, from where it is; going on turns this list by one place, going back turns it
the other way (`round_next`, `round_previous`), since a list without repetitions is known by its
first member among the lists that it can be turned into. That the focus is on a visible field
whenever there is one (`FormView.Usable`) is restored by whatever is told of a field that is shown.

* `focus_usable`: the focus is usable after whatever is told and pressed, and goes round.
-/

namespace Formulary.Form

/-- What is told is whether a field is visible. -/
def Update.isVisibility : Update → Bool
  | .visible .. => true
  | _ => false

/-- What is told is that there is a field. -/
def Update.isRender : Update → Bool
  | .render .. => true
  | _ => false

end Formulary.Form

namespace Formulary.Display

open Form (Field Update)

/-! ## Lists that are turned -/

section

variable {α : Type} {l l' : List α}

theorem isRotated_filter (p : α → Bool) (turned : l ~r l') : l.filter p ~r l'.filter p := by
  obtain ⟨n, rfl⟩ := turned
  have parts : l.filter p =
      (l.take (n % l.length)).filter p ++ (l.drop (n % l.length)).filter p := by
    rw [← List.filter_append, List.take_append_drop]
  rw [List.rotate_eq_drop_append_take_mod, List.filter_append, parts]
  exact List.isRotated_append

/-- Without repetitions, where a list starts says how it was turned. -/
theorem eq_of_isRotated (turned : l ~r l') (unique : l.Nodup) (same : l.head? = l'.head?) :
    l = l' := by
  obtain ⟨n, rfl⟩ := turned
  cases l with
  | nil => simp
  | cons a l =>
    have within : n % (a :: l).length < (a :: l).length := Nat.mod_lt _ (Nat.succ_pos _)
    rw [← List.rotate_mod, List.head?_rotate within] at same
    rw [List.getElem?_eq_getElem within] at same
    have first : (a :: l)[n % (a :: l).length] = (a :: l)[0] := (Option.some.inj same).symm
    have start : n % (a :: l).length = 0 := unique.getElem_inj_iff.1 first
    rw [← List.rotate_mod, start, List.rotate_zero]

end

namespace FormView

variable {f g : FormView} {i n k : Nat} {u : Update}

/-! ## Going round -/

/-- The positions of the visible fields as the focus comes to them, its own first if it is
visible. -/
def round (f : FormView) : List Nat :=
  ((List.range f.fields.length).rotate f.focus).filter f.isVisible

theorem lt_of_isVisible (visible : f.isVisible i = true) : i < f.fields.length := by
  by_contra beyond
  rw [isVisible, field?, List.getElem?_eq_none (by omega)] at visible
  cases visible

theorem mem_visiblePositions : i ∈ f.visiblePositions ↔ f.isVisible i = true := by
  rw [visiblePositions, List.mem_filter, List.mem_range]
  exact ⟨And.right, fun visible => ⟨lt_of_isVisible visible, visible⟩⟩

theorem nodup_visiblePositions (f : FormView) : f.visiblePositions.Nodup :=
  List.nodup_range.filter _

theorem round_isRotated (f : FormView) : f.round ~r f.visiblePositions :=
  isRotated_filter f.isVisible (List.IsRotated.forall _ _)

theorem nodup_round (f : FormView) : f.round.Nodup :=
  f.round_isRotated.nodup_iff.2 f.nodup_visiblePositions

/-- All positions, from one of them on. -/
theorem rotate_range (inside : i < n) :
    (List.range n).rotate i = i :: ((List.range n).drop (i + 1) ++ List.range i) := by
  have here : (List.range n).drop i = i :: (List.range n).drop (i + 1) := by
    rw [List.drop_eq_getElem_cons (by rwa [List.length_range]), List.getElem_range]
  have front : (List.range n).take i = List.range i := by
    rw [List.take_range, Nat.min_eq_left inside.le]
  rw [List.rotate_eq_drop_append_take (by rw [List.length_range]; exact inside.le), here, front,
    List.cons_append]

theorem after_eq_rotate (n i : Nat) : after n i = (List.range n).rotate (i + 1) := by
  refine List.ext_getElem ?_ fun k _ _ => ?_
  · rw [after, List.length_map, List.length_rotate]
  · rw [List.getElem_rotate]
    simp only [after, List.getElem_map, List.getElem_range, List.length_range]
    rw [Nat.add_comm]

/-- The positions before one are those from it on, taken from the end. -/
theorem before_eq_reverse (n i : Nat) : before n i = ((List.range n).rotate i).reverse := by
  refine List.ext_getElem ?_ fun k _ _ => ?_
  · rw [before, List.length_map, List.length_reverse, List.length_rotate]
  · rw [List.getElem_reverse, List.getElem_rotate]
    simp only [before, List.getElem_map, List.getElem_range, List.length_range,
      List.length_rotate]
    rw [Nat.add_comm]

theorem head?_round (visible : f.isVisible f.focus = true) : f.round.head? = some f.focus := by
  rw [round, rotate_range (lt_of_isVisible visible), List.filter_cons_of_pos visible]
  rfl

/-- A round is known by its first position. -/
theorem round_of_head? {l : List Nat} (turned : l ~r f.visiblePositions)
    (first : l.head? = some i) :
    f.isVisible i = true ∧ ({ f with focus := i } : FormView).round = l := by
  have visible : f.isVisible i = true :=
    mem_visiblePositions.1 (turned.mem_iff.1 (List.mem_of_mem_head? first))
  let g : FormView := { f with focus := i }
  have same : g.round.head? = l.head? := (head?_round (f := g) visible).trans first.symm
  exact ⟨visible, eq_of_isRotated (g.round_isRotated.trans turned.symm) g.nodup_round same⟩

theorem focusFirst_of_head? {positions : List Nat}
    (first : (positions.filter f.isVisible).head? = some i) :
    f.focusFirst positions = { f with focus := i } := by
  rw [List.head?_filter] at first
  unfold focusFirst
  rw [first]

/-- The focus stands on a visible field, from which `l` is its round. -/
structure Rounds (f g : FormView) (l : List Nat) : Prop where
  same : g = { f with focus := g.focus }
  visible : f.isVisible g.focus = true
  round : g.round = l

theorem rounds_focusFirst {positions l : List Nat}
    (first : (positions.filter f.isVisible).head? = l.head?) (turned : l ~r f.visiblePositions)
    (filled : l ≠ []) : f.Rounds (f.focusFirst positions) l := by
  obtain ⟨i, rest, rfl⟩ := List.exists_cons_of_ne_nil filled
  obtain ⟨visible, round⟩ := round_of_head? turned rfl
  rw [focusFirst_of_head? first]
  exact ⟨rfl, visible, round⟩

theorem round_ne_nil (visible : f.isVisible f.focus = true) : f.round ≠ [] := by
  intro none
  have first := head?_round visible
  rw [none] at first
  cases first

/-- Going on turns the round by one place. -/
theorem rounds_next (visible : f.isVisible f.focus = true) : f.Rounds f.next (f.round.rotate 1) := by
  refine rounds_focusFirst ?_ ((List.IsRotated.forall _ _).trans f.round_isRotated) ?_
  · rw [after_eq_rotate, ← List.rotate_rotate, round, rotate_range (lt_of_isVisible visible),
      List.filter_cons_of_pos visible, List.rotate_cons_succ, List.rotate_cons_succ,
      List.rotate_zero, List.rotate_zero, List.filter_append, List.filter_singleton, visible]
    rfl
  · exact fun none => round_ne_nil visible (List.rotate_eq_nil_iff.1 none)

/-- Going back turns the round by one place the other way. -/
theorem rounds_previous (visible : f.isVisible f.focus = true) :
    f.Rounds f.previous (f.round.rotate (f.round.length - 1)) := by
  refine rounds_focusFirst ?_ ((List.IsRotated.forall _ _).trans f.round_isRotated) ?_
  · have filled := List.length_pos_of_ne_nil (round_ne_nil visible)
    rw [before_eq_reverse, List.filter_reverse, List.head?_reverse, List.getLast?_eq_getElem?,
      List.head?_rotate (Nat.sub_lt filled Nat.one_pos)]
    rfl
  · exact fun none => round_ne_nil visible (List.rotate_eq_nil_iff.1 none)

variable {h : FormView} {l l' : List Nat}

theorem Rounds.trans (first : f.Rounds g l) (second : g.Rounds h l') : f.Rounds h l' where
  same := by
    rw [second.same, first.same]
  visible := by
    have visible := second.visible
    rw [first.same] at visible
    exact visible
  round := second.round

theorem Rounds.visible_self (rounds : f.Rounds g l) : g.isVisible g.focus = true := by
  have visible := rounds.visible
  rw [rounds.same]
  exact visible

/-- Where the round is the same the focus is. -/
theorem Rounds.eq_self (rounds : f.Rounds g f.round) (visible : f.isVisible f.focus = true) :
    g = f := by
  have first := head?_round rounds.visible_self
  rw [rounds.round, head?_round visible] at first
  rw [rounds.same, ← Option.some.inj first]

theorem next_previous (visible : f.isVisible f.focus = true) : f.next.previous = f := by
  have there := rounds_next visible
  have back := there.trans (rounds_previous there.visible_self)
  have filled := List.length_pos_of_ne_nil (round_ne_nil visible)
  rw [there.round, List.length_rotate, List.rotate_rotate, Nat.add_sub_cancel' filled,
    List.rotate_length] at back
  exact back.eq_self visible

theorem previous_next (visible : f.isVisible f.focus = true) : f.previous.next = f := by
  have there := rounds_previous visible
  have back := there.trans (rounds_next there.visible_self)
  have filled := List.length_pos_of_ne_nil (round_ne_nil visible)
  rw [there.round, List.rotate_rotate, Nat.sub_add_cancel filled, List.rotate_length] at back
  exact back.eq_self visible

theorem rounds_iterate_next (visible : f.isVisible f.focus = true) (k : Nat) :
    f.Rounds (next^[k] f) (f.round.rotate k) := by
  induction k with
  | zero => exact ⟨rfl, visible, (List.rotate_zero _).symm⟩
  | succ k ih =>
    rw [Function.iterate_succ_apply']
    have step := ih.trans (rounds_next ih.visible_self)
    rwa [ih.round, List.rotate_rotate] at step

theorem length_round (f : FormView) : f.round.length = f.visiblePositions.length :=
  f.round_isRotated.perm.length_eq

/-- The round starts where the focus stands in the order of the fields. -/
theorem round_eq_rotate (visible : f.isVisible f.focus = true) :
    f.round = f.visiblePositions.rotate (f.visiblePositions.idxOf f.focus) := by
  have among := mem_visiblePositions.2 visible
  have within := List.idxOf_lt_length_iff.2 among
  refine eq_of_isRotated (f.round_isRotated.trans ⟨_, rfl⟩) f.nodup_round ?_
  rw [head?_round visible, List.head?_rotate within, List.getElem?_eq_getElem within,
    List.getElem_idxOf]

/-- Going on again and again comes to every visible field once, in their order. -/
theorem map_iterate_next (visible : f.isVisible f.focus = true) :
    ((List.range f.visiblePositions.length).map fun k => (next^[k + 1] f).focus) =
      f.visiblePositions.rotate (f.visiblePositions.idxOf f.focus + 1) := by
  rw [← List.rotate_rotate, ← round_eq_rotate visible]
  refine List.ext_getElem ?_ fun k within within' => ?_
  · rw [List.length_map, List.length_range, List.length_rotate, length_round]
  · rw [List.getElem_map, List.getElem_range]
    have rounds := rounds_iterate_next visible (k + 1)
    have first := head?_round rounds.visible_self
    have turned : f.round.rotate (k + 1) = (f.round.rotate 1).rotate k := by
      rw [List.rotate_rotate, Nat.add_comm]
    rw [rounds.round, turned, List.head?_rotate within', List.getElem?_eq_getElem within'] at first
    exact (Option.some.inj first).symm

theorem iterate_next_length (visible : f.isVisible f.focus = true) :
    next^[f.visiblePositions.length] f = f := by
  have rounds := rounds_iterate_next visible f.visiblePositions.length
  rw [← length_round, List.rotate_length, length_round] at rounds
  exact rounds.eq_self visible

/-! ## What is told -/

/-- The focus is one of the positions, and on a visible field if there is one. -/
structure Usable (f : FormView) : Prop where
  inside : f.fields ≠ [] → f.focus < f.fields.length
  visible : ∀ i, f.isVisible i = true → f.isVisible f.focus = true

/-- A focus that has moved to a visible field is usable. -/
theorem usable_or_none (f : FormView) (positions : List Nat) :
    (f.focusFirst positions).Usable ∨
      f.focusFirst positions = f ∧ ∀ i ∈ positions, f.isVisible i = false := by
  unfold FormView.focusFirst
  split
  · rename_i i found
    have visible : f.isVisible i = true := List.find?_some found
    exact Or.inl ⟨fun _ => lt_of_isVisible visible, fun _ _ => visible⟩
  · rename_i none
    exact Or.inr ⟨rfl, fun i among => Bool.eq_false_iff.2 (List.find?_eq_none.1 none i among)⟩

theorem Usable.focusFirst (usable : f.Usable) (positions : List Nat) :
    (f.focusFirst positions).Usable := by
  rcases f.usable_or_none positions with moved | ⟨same, -⟩
  · exact moved
  · rw [same]
    exact usable

/-- Wherever the focus is, it is usable when a visible field has been looked for. -/
theorem usable_keepFocusVisible (inside : f.fields ≠ [] → f.focus < f.fields.length) :
    f.keepFocusVisible.Usable := by
  unfold keepFocusVisible
  split
  · rename_i visible
    exact ⟨inside, fun _ _ => visible⟩
  · rcases f.usable_or_none (after f.fields.length f.focus) with moved | ⟨same, hidden⟩
    · exact moved
    · unfold next
      rw [same]
      refine ⟨inside, fun i visible => ?_⟩
      have among : i ∈ after f.fields.length f.focus := by
        rw [after_eq_rotate, List.mem_rotate, List.mem_range]
        exact lt_of_isVisible visible
      exact absurd visible (Bool.eq_false_iff.1 (hidden i among))

theorem length_changeField (id : String) (change : FieldView → FieldView)
    (fields : List FieldView) : (changeField id change fields).length = fields.length := by
  induction fields with
  | nil => rfl
  | cons v fields ih =>
    rw [changeField]
    split
    · rfl
    · rw [List.length_cons, ih, List.length_cons]

/-- What is told of a field that is shown already. -/
theorem apply_eq_of_known (known : ∀ field, u = .render field →
    field.id ∈ f.fields.map FieldView.id) :
    f.apply u = ({ f with fields := changeField u.id (·.apply u) f.fields } :
      FormView).keepFocusVisible := by
  cases u with
  | render field =>
    have there : f.fields.any (·.id = field.id) = true := by
      obtain ⟨v, inside, same⟩ := List.mem_map.1 (known field rfl)
      exact List.any_eq_true.2 ⟨v, inside, decide_eq_true same⟩
    unfold apply
    dsimp only
    rw [if_pos there]
  | _ => rfl

/-- **The focus stays usable** whatever is told of fields that are shown. -/
theorem Usable.apply (usable : f.Usable) (known : ∀ field, u = .render field →
    field.id ∈ f.fields.map FieldView.id) : (f.apply u).Usable := by
  rw [apply_eq_of_known known]
  refine usable_keepFocusVisible fun filled => ?_
  dsimp only at filled ⊢
  have length := length_changeField u.id (·.apply u) f.fields
  rw [length]
  refine usable.inside fun none => filled ?_
  rw [none]
  rfl

/-! ## Opening -/

/-- Nothing has been hidden, and the focus has not moved. -/
structure Fresh (f : FormView) : Prop where
  focus : f.focus = 0
  visible : ∀ v ∈ f.fields, v.visible = true

theorem Fresh.isVisible (fresh : f.Fresh) (inside : i < f.fields.length) :
    f.isVisible i = true := by
  rw [FormView.isVisible, field?, List.getElem?_eq_getElem inside]
  exact fresh.visible _ (List.getElem_mem inside)

theorem Fresh.keepFocusVisible (fresh : f.Fresh) : f.keepFocusVisible = f := by
  unfold FormView.keepFocusVisible
  split
  · rfl
  · rename_i hidden
    have none : f.fields.length = 0 := by
      by_contra filled
      refine hidden (fresh.isVisible ?_)
      rw [fresh.focus]
      exact Nat.pos_of_ne_zero filled
    unfold next
    rw [none]
    rfl

theorem Fresh.usable (fresh : f.Fresh) : f.Usable := by
  have inside (filled : f.fields ≠ []) : f.focus < f.fields.length := by
    rw [fresh.focus]
    exact List.length_pos_of_ne_nil filled
  refine ⟨inside, fun i visible => fresh.isVisible (inside ?_)⟩
  exact List.ne_nil_of_length_pos (Nat.zero_lt_of_lt (lt_of_isVisible visible))

theorem mem_changeField {id : String} {change : FieldView → FieldView} {fields : List FieldView}
    {w : FieldView} (among : w ∈ changeField id change fields) :
    w ∈ fields ∨ ∃ v ∈ fields, w = change v := by
  induction fields with
  | nil => cases among
  | cons v fields ih =>
    rw [changeField] at among
    split at among
    · rcases List.mem_cons.1 among with rfl | later
      · exact Or.inr ⟨v, List.mem_cons_self, rfl⟩
      · exact Or.inl (List.mem_cons_of_mem v later)
    · rcases List.mem_cons.1 among with rfl | later
      · exact Or.inl List.mem_cons_self
      · rcases ih later with same | ⟨x, inside, rfl⟩
        · exact Or.inl (List.mem_cons_of_mem v same)
        · exact Or.inr ⟨x, List.mem_cons_of_mem v inside, rfl⟩

theorem visible_apply {v : FieldView} (other : u.isVisibility = false) (visible : v.visible = true) :
    (v.apply u).visible = true := by
  cases u with
  | render field => rfl
  | visible id visible => cases other
  | _ => exact visible

theorem Fresh.apply (fresh : f.Fresh) (other : u.isVisibility = false) : (f.apply u).Fresh := by
  have told : ({ f with fields := changeField u.id (·.apply u) f.fields } : FormView).Fresh := by
    refine ⟨fresh.focus, fun w among => ?_⟩
    rcases mem_changeField among with same | ⟨v, inside, rfl⟩
    · exact fresh.visible w same
    · exact visible_apply other (fresh.visible v inside)
  have settled : ({ f with fields := changeField u.id (·.apply u) f.fields } :
      FormView).keepFocusVisible.Fresh := by
    rw [told.keepFocusVisible]
    exact told
  cases u with
  | render field =>
    unfold FormView.apply
    dsimp only
    split
    · exact settled
    · refine ⟨fresh.focus, fun w among => ?_⟩
      rcases List.mem_append.1 among with old | new
      · exact fresh.visible w old
      · rw [List.mem_singleton.1 new]
        rfl
  | _ => exact settled

theorem Fresh.foldl_apply {us : List Update} (fresh : f.Fresh)
    (other : ∀ u ∈ us, u.isVisibility = false) : (us.foldl FormView.apply f).Fresh := by
  induction us generalizing f with
  | nil => exact fresh
  | cons u us ih =>
    exact ih (fresh.apply (other u List.mem_cons_self)) fun u later =>
      other u (List.mem_cons_of_mem _ later)

/-! ## What happens to a form that is shown -/

/-- A form is told something, or its focus is moved. -/
inductive Move where
  | tell (u : Update)
  | next
  | previous

def move (f : FormView) : Move → FormView
  | .tell u => f.apply u
  | .next => f.next
  | .previous => f.previous

theorem Usable.move (usable : f.Usable) {m : Move}
    (late : ∀ u, m = .tell u → u.isRender = false) : (f.move m).Usable := by
  cases m with
  | tell u =>
    refine usable.apply fun field rendered => ?_
    have absurd := late u rfl
    rw [rendered] at absurd
    cases absurd
  | next => exact usable.focusFirst _
  | previous => exact usable.focusFirst _

theorem Usable.foldl_move {moves : List Move} (usable : f.Usable)
    (late : ∀ u, Move.tell u ∈ moves → u.isRender = false) :
    (moves.foldl FormView.move f).Usable := by
  induction moves generalizing f with
  | nil => exact usable
  | cons m moves ih =>
    refine ih (usable.move fun u told => late u ?_) fun u told =>
      late u (List.mem_cons_of_mem _ told)
    rw [← told]
    exact List.mem_cons_self

/-- **The focus is always usable.** A form is told of its fields, before anything is hidden, and
then of whatever changes, while its focus is moved on and back. The focus is then one of the
positions if there are any, and on a visible field if there is one. From a visible field moving on
and moving back undo each other, and moving on again and again comes to every visible field once,
in their order and round the end, and last to the field itself. -/
theorem focus_usable (title button : String) {openings : List Update} {moves : List Move}
    (opening : ∀ u ∈ openings, u.isVisibility = false)
    (late : ∀ u, Move.tell u ∈ moves → u.isRender = false)
    (moved : f = moves.foldl move
      (openings.foldl apply { title := title, button := button : FormView })) :
    f.Usable ∧ (f.isVisible f.focus = true →
      f.next.previous = f ∧ f.previous.next = f ∧
      ((List.range f.visiblePositions.length).map fun k => (next^[k + 1] f).focus) =
        f.visiblePositions.rotate (f.visiblePositions.idxOf f.focus + 1) ∧
      next^[f.visiblePositions.length] f = f) := by
  have fresh : ({ title := title, button := button } : FormView).Fresh := ⟨rfl, by simp⟩
  refine ⟨?_, fun visible => ?_⟩
  · rw [moved]
    exact (fresh.foldl_apply opening).usable.foldl_move late
  · exact ⟨next_previous visible, previous_next visible, map_iterate_next visible,
      iterate_next_length visible⟩

/-- The second of three fields becomes hidden while it has the focus. -/
theorem focus_usable_trip :
    let openings := Form.Session.trip.fields.map Update.render
    let moves := [Move.next, .tell (.visible "note" false)]
    ∃ f : FormView, (∀ u ∈ openings, u.isVisibility = false) ∧
      (∀ u, Move.tell u ∈ moves → u.isRender = false) ∧
      f = moves.foldl move (openings.foldl apply { title := "Trip", button := "Submit" }) ∧
      f.Usable ∧ f.isVisible f.focus = true ∧ f.focus = 2 ∧ f.visiblePositions = [0, 2] ∧
      f.next.previous = f := by
  intro openings moves
  have opening : ∀ u ∈ openings, u.isVisibility = false := by decide
  have late : ∀ u, Move.tell u ∈ moves → u.isRender = false := by
    intro u told
    have told : u = .visible "note" false := by simpa [moves] using told
    rw [told]
    rfl
  have facts := focus_usable "Trip" "Submit" opening late rfl
  have visible : (moves.foldl move (openings.foldl apply
      { title := "Trip", button := "Submit" })).isVisible 2 = true := by
    decide +kernel
  exact ⟨_, opening, late, rfl, facts.1, visible, by decide +kernel, by decide +kernel,
    (facts.2 visible).1⟩

end FormView

end Formulary.Display
