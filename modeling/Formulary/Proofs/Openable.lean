import Formulary.Proofs.NamedForm

/-!
# Opening the form that received a field

A field that is added goes to the form whose id is returned. Opening looks only at the forms that
are active, and takes the first one with that id or with a title that reads the same. So the form
with the new field is opened just if it is active and no active form before it answers to its id.

* `Config.addField_opens`: the form that received the field, and what opening its id gives.
-/

namespace Formulary.Config

open Form (Definition Field)

variable {c d : Config} {key id : String} {field : Field} {form : Definition} {s : StoredForm}
  {before : List StoredForm} {now : Calendar.Instant}

/-- Behind the forms `before` the configuration `d` has `s`, where `c` has a form with the same id,
which is active if `s` is and only then; or where the forms of `c` end, and then `s` is active.
Nothing else is different. -/
inductive Receives (c : Config) (before : List StoredForm) : StoredForm → Config → Prop
  | inPlace {after : List StoredForm} {old : StoredForm} (form : Definition)
    (shape : c.forms = before ++ old :: after) :
    Receives c before { old with form := form }
      { c with forms := before ++ { old with form := form } :: after }
  | atEnd {s : StoredForm} (shape : c.forms = before) (active : s.active = true) :
    Receives c before s { c with forms := before ++ [s] }

/-- An active form that a key names. -/
def answers (key : String) (s : StoredForm) : Bool := s.active && StoredForm.isNamed s key

/-- The form is active, and no active form before it has its id as an id or a title. -/
def Leads (before : List StoredForm) (s : StoredForm) : Prop :=
  s.active = true ∧ ∀ r ∈ before, answers s.id r = false

/-! ## Storing -/

/-- A form is stored in place of the first one of its title, or at the end. -/
theorem receives_of_upsert (stored : c.upsert form now = (d, id)) :
    ∃ before s, c.Receives before s d ∧ s.id = id ∧ s.form = form := by
  cases found : c.forms.find? (·.form.title = form.title) with
  | none =>
    have other := List.find?_eq_none.1 found
    simp only [decide_eq_true_eq] at other
    rw [upsert_of_untitled other] at stored
    cases stored
    exact ⟨c.forms, _, .atEnd rfl rfl, rfl, rfl⟩
  | some old =>
    obtain ⟨same, before, after, shape, other⟩ := List.find?_eq_some_iff_append.1 found
    simp only [Bool.not_eq_true', decide_eq_false_iff_not] at other
    rw [upsert_append shape other (of_decide_eq_true same)] at stored
    cases stored
    exact ⟨before, _, .inPlace form shape, rfl, rfl⟩

/-! ## Opening -/

theorem find?_eq (c : Config) (key : String) : c.find? key = c.forms.find? (answers key) := by
  unfold find?
  rw [List.find?_filter]
  congr 1
  funext s
  rw [answers, Bool.decide_and, Bool.decide_eq_true, Bool.decide_eq_true]

/-- A form answers to its own id if it is active. -/
theorem answers_id (s : StoredForm) : answers s.id s = s.active := by
  have named : StoredForm.isNamed s s.id = true := isNamed_iff.2 (Or.inl rfl)
  rw [answers, named, Bool.and_true]

theorem Leads.find?_eq_none (leads : Leads before s) : before.find? (answers s.id) = none := by
  refine List.find?_eq_none.2 fun r inside => ?_
  rw [leads.2 r inside]
  exact Bool.false_ne_true

theorem Receives.find?_of_leads (receives : c.Receives before s d) (leads : Leads before s) :
    d.find? s.id = some s := by
  have taken : answers s.id s = true := (answers_id s).trans leads.1
  have none := leads.find?_eq_none
  rw [find?_eq]
  cases receives with
  | inPlace form shape => rw [List.find?_append, none, List.find?_cons_of_pos taken, Option.none_or]
  | atEnd shape active => rw [List.find?_append, none, List.find?_cons_of_pos taken, Option.none_or]

/-- Behind a form that is taken, or where it is not taken itself, a form has no part in what is
taken. -/
theorem Receives.find?_of_not_leads (receives : c.Receives before s d)
    (behind : ¬ Leads before s) : d.find? s.id = c.find? s.id := by
  have passed (active : s.active = true) : before.find? (answers s.id) ≠ none := by
    intro none
    refine behind ⟨active, fun r inside => ?_⟩
    exact Bool.eq_false_iff.2 (List.find?_eq_none.1 none r inside)
  rw [find?_eq, find?_eq]
  cases receives with
  | @inPlace after old form shape =>
    rw [shape, List.find?_append, List.find?_append]
    cases found : before.find? (answers old.id) with
    | some r => rfl
    | none =>
      have inactive : old.active = false := Bool.eq_false_iff.2 fun active => passed active found
      have unlike : answers old.id old = false := (answers_id old).trans inactive
      have unlike' : answers old.id { old with form := form } = false :=
        (answers_id { old with form := form }).trans inactive
      rw [List.find?_cons_of_neg (Bool.eq_false_iff.1 unlike),
        List.find?_cons_of_neg (Bool.eq_false_iff.1 unlike')]
  | atEnd shape active =>
    obtain ⟨r, found⟩ := Option.ne_none_iff_exists'.1 (passed active)
    rw [shape, List.find?_append, found]
    rfl

/-- **Opening the form that received a field.** A form under the id that is returned has the field,
once. Opening that id gives this form if it is active and no active form before it has the id as its
id or title; otherwise it gives what it gave before. -/
theorem addField_opens (ok : c.addField key field now = .ok (d, id)) :
    ∃ before s, c.Receives before s d ∧ s.id = id ∧
      s.form.fields.filter (·.id = field.id) = [field] ∧
      (Leads before s → d.find? id = some s) ∧
      (¬ Leads before s → d.find? id = c.find? id) := by
  obtain ⟨-, form, gains, -, stored⟩ := upsert_of_ok ok
  obtain ⟨before, s, receives, rfl, rfl⟩ := receives_of_upsert stored
  exact ⟨before, s, receives, rfl, gains.once, receives.find?_of_leads,
    receives.find?_of_not_leads⟩

/-- A stay that is not offered. -/
def pastStay : StoredForm where
  id := "stay-1"
  active := false
  form := { title := "Stay" }

/-- The number of nights. -/
def nights : Field := { id := "nights", label := "Nights", kind := .number }

/-- The trip with the number of nights. -/
def nightsTrip : StoredForm :=
  { cityTrip with form := { cityTrip.form with fields := cityTrip.form.fields ++ [nights] } }

theorem eq_ok_of_toOption {ε α : Type} {result : Except ε α} {a : α}
    (some : result.toOption = some a) : result = .ok a := by
  cases result with
  | error e => cases some
  | ok b =>
    cases some
    rfl

/-- The trip, behind a stay that is not active, has the nights and is opened with them. -/
theorem addField_opens_trip :
    let c : Config := { forms := [pastStay, cityTrip] }
    let d : Config := { forms := [pastStay, nightsTrip] }
    c.addField " Trip " nights 0 = .ok (d, "trip-1") ∧ d.find? "trip-1" = some nightsTrip ∧
      ∃ before s, c.Receives before s d ∧ s.id = "trip-1" ∧
        s.form.fields.filter (·.id = nights.id) = [nights] ∧
        (Leads before s → d.find? "trip-1" = some s) ∧
        (¬ Leads before s → d.find? "trip-1" = c.find? "trip-1") := by
  intro c d
  have added : (c.addField " Trip " nights 0).toOption = some (d, "trip-1") := by decide +kernel
  have ok := eq_ok_of_toOption added
  exact ⟨ok, by decide +kernel, addField_opens ok⟩

/-! ## Forms that are not opened -/

/-- A plan with a title that reads like the id of the trip. -/
def tripPlan : StoredForm where
  id := "plan-1"
  form := { title := "trip-1" }

/-- **Fields that are added and not opened.** The trip takes the nights, but its id opens the plan
in front of it, which has no fields. The stay takes them too, but is not active: its id opens
nothing. -/
theorem addField_unopened :
    let c : Config := { forms := [tripPlan, cityTrip, pastStay] }
    Config.load c.save = .ok c ∧
      (∃ d, c.addField "Trip" nights 0 = .ok (d, "trip-1") ∧ d.find? "trip-1" = some tripPlan ∧
        tripPlan.form.fields = []) ∧
      ∃ d, c.addField "Stay" nights 0 = .ok (d, "stay-1") ∧ d.find? "stay-1" = none := by
  intro c
  have storable : c.Storable := by
    refine ⟨fun s inside => ?_, fun n given => ?_⟩
    · simp only [c, List.mem_cons, List.not_mem_nil, or_false] at inside
      rcases inside with rfl | rfl | rfl
      · exact List.forall_mem_nil _
      · intro f among name x limit
        rw [List.mem_singleton.1 among] at limit
        cases name <;> cases limit
      · exact List.forall_mem_nil _
    · cases given
  have trip : (c.addField "Trip" nights 0).toOption =
      some ({ c with forms := [tripPlan, nightsTrip, pastStay] }, "trip-1") := by decide +kernel
  have stay : (c.addField "Stay" nights 0).toOption =
      some ({ c with forms := [tripPlan, cityTrip,
        { pastStay with form := { pastStay.form with fields := [nights] } }] }, "stay-1") := by
    decide +kernel
  exact ⟨Config.load_save storable, ⟨_, eq_ok_of_toOption trip, by decide +kernel, rfl⟩,
    ⟨_, eq_ok_of_toOption stay, by decide +kernel⟩⟩

end Formulary.Config
