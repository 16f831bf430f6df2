import Formulary.Proofs.Acceptance
import Formulary.Proofs.Stored

/-!
# Adding a field to the form that a key names

A field is put into a copy of the form that a key names, by its id or its title, and the copy is
stored in place of the first form of its title. That is another form than the one named when two
stored forms have one title and the key is the id of the later one.

* `Config.addField_outcome`: the field cannot be added, and nothing changes; or it is added, and
  just the form that the key names is different, exactly when no form before it has its title.
-/

namespace Formulary

open Form (Definition Field Graph)

/-! ## Putting a field into a form -/

namespace Form

/-- The form has a field put into it, in place of the field of its id, or after all others. Nothing
else of the form is different, no other field has the id, and the form has a graph. -/
structure Definition.Gains (old : Definition) (field : Field) (new : Definition) : Prop where
  rest : { new with fields := old.fields } = old
  placed : (∃ before f after, old.fields = before ++ f :: after ∧ f.id = field.id ∧
      new.fields = before ++ field :: after) ∨
    new.fields = old.fields ++ [field]
  once : new.fields.filter (·.id = field.id) = [field]
  accepted : ∃ g, Graph.ofDefinition new = .ok g

end Form

namespace Config

variable {c d : Config} {key id : String} {field : Field} {form old new : Definition}
  {fields before after : List Field} {now : Calendar.Instant}

theorem putField_of_unused (unused : ∀ f ∈ fields, f.id ≠ field.id) :
    putField field fields = fields ++ [field] := by
  induction fields with
  | nil => rfl
  | cons f fields ih =>
    obtain ⟨differs, unused⟩ := List.forall_mem_cons.1 unused
    rw [putField, if_neg differs, ih unused]
    rfl

theorem putField_append {f : Field} (unused : ∀ f ∈ before, f.id ≠ field.id)
    (same : f.id = field.id) :
    putField field (before ++ f :: after) = before ++ field :: after := by
  induction before with
  | nil => exact if_pos same
  | cons f' before ih =>
    obtain ⟨differs, unused⟩ := List.forall_mem_cons.1 unused
    rw [List.cons_append, putField, if_neg differs, ih unused]
    rfl

/-- The first field of the id gives way; without one the field comes last. -/
theorem putField_cases (field : Field) (fields : List Field) :
    (∃ before f after, fields = before ++ f :: after ∧ f.id = field.id ∧
      putField field fields = before ++ field :: after) ∨
    putField field fields = fields ++ [field] := by
  cases found : fields.find? (·.id = field.id) with
  | none =>
    have unused := List.find?_eq_none.1 found
    simp only [decide_eq_true_eq] at unused
    exact Or.inr (putField_of_unused unused)
  | some f =>
    obtain ⟨same, before, after, rfl, unused⟩ := List.find?_eq_some_iff_append.1 found
    simp only [Bool.not_eq_true', decide_eq_false_iff_not] at unused
    have same := of_decide_eq_true same
    exact Or.inl ⟨before, f, after, rfl, same, putField_append unused same⟩

theorem filter_id_cons (field : Field) (after : List Field) :
    (field :: after).filter (·.id = field.id) = field :: after.filter (·.id = field.id) :=
  List.filter_cons_of_pos (decide_eq_true rfl)

/-- Where ids are distinct a field is the only one of its id. -/
theorem filter_id_eq (unique : ((before ++ field :: after).map Field.id).Nodup) :
    (before ++ field :: after).filter (·.id = field.id) = [field] := by
  rw [List.map_append, List.map_cons, List.nodup_append, List.nodup_cons] at unique
  obtain ⟨-, ⟨later, -⟩, apart⟩ := unique
  have none (fields : List Field) (absent : field.id ∉ fields.map Field.id) :
      fields.filter (·.id = field.id) = [] := by
    refine List.filter_eq_nil_iff.2 fun f inside same => absent ?_
    rw [← of_decide_eq_true same]
    exact List.mem_map_of_mem inside
  have earlier : field.id ∉ before.map Field.id := fun inside =>
    apart field.id inside field.id List.mem_cons_self rfl
  rw [List.filter_append, filter_id_cons, none before earlier,
    none after later]
  rfl

/-- What is put into a form is gained by it, if the form has a graph then. -/
theorem gains_putField {g : Graph}
    (built : Graph.ofDefinition { old with fields := putField field old.fields } = .ok g) :
    old.Gains field { old with fields := putField field old.fields } where
  rest := rfl
  placed := putField_cases field old.fields
  once := by
    have unique := (Graph.represents_of_ok built).unique
    unfold Definition.ids at unique
    dsimp only at unique ⊢
    rcases putField_cases field old.fields with ⟨before, f, after, -, -, put⟩ | put
    · rw [put] at unique ⊢
      exact filter_id_eq unique
    · rw [put] at unique ⊢
      exact filter_id_eq unique
  accepted := ⟨g, built⟩

/-- There is one way only for a form to gain a field. -/
theorem fields_of_gains (gains : old.Gains field new) :
    new.fields = putField field old.fields := by
  have once := gains.once
  rcases gains.placed with ⟨before, f, after, shape, same, placed⟩ | placed
  · rw [placed, List.filter_append, filter_id_cons] at once
    have unused : ∀ f ∈ before, f.id ≠ field.id := by
      intro f inside same
      have among : f ∈ before.filter (·.id = field.id) :=
        List.mem_filter.2 ⟨inside, decide_eq_true same⟩
      have length := congrArg List.length once
      have := List.length_pos_of_mem among
      simp only [List.length_append, List.length_cons, List.length_nil] at length
      omega
    rw [shape, putField_append unused same, placed]
  · rw [placed, List.filter_append, filter_id_cons] at once
    rw [placed, putField_of_unused]
    intro f inside same
    have among : f ∈ old.fields.filter (·.id = field.id) :=
      List.mem_filter.2 ⟨inside, decide_eq_true same⟩
    have length := congrArg List.length once
    have := List.length_pos_of_mem among
    simp only [List.length_append, List.length_cons, List.length_nil, List.filter_nil] at length
    omega

theorem eq_of_gains (gains : old.Gains field new) :
    new = { old with fields := putField field old.fields } := by
  have rest := gains.rest
  rw [← fields_of_gains gains]
  cases old
  cases new
  cases rest
  rfl

/-! ## Looking a form up -/

/-- The first of the stored forms that a key names, by id or by title. -/
structure Names (c : Config) (key : String) (before : List StoredForm) (s : StoredForm)
    (after : List StoredForm) : Prop where
  shape : c.forms = before ++ s :: after
  named : s.id = key ∨ s.form.title = key
  first : ∀ r ∈ before, r.id ≠ key ∧ r.form.title ≠ key

theorem isNamed_iff {s : StoredForm} :
    StoredForm.isNamed s key = true ↔ s.id = key ∨ s.form.title = key := by
  simp only [StoredForm.isNamed, Bool.or_eq_true, decide_eq_true_eq]

theorem isNamed_eq_false_iff {s : StoredForm} :
    StoredForm.isNamed s key = false ↔ s.id ≠ key ∧ s.form.title ≠ key := by
  rw [← Bool.not_eq_true, isNamed_iff, not_or]

/-- The form that a key names; else a new one of that title. -/
def target (c : Config) (key : String) : Definition :=
  match c.forms.find? (StoredForm.isNamed · key) with
  | some s => s.form
  | none => { title := key }

/-- A key names a first form, or none. -/
theorem names_cases (c : Config) (key : String) :
    (∃ before s after, c.Names key before s after ∧ c.target key = s.form) ∨
    (∀ s ∈ c.forms, s.id ≠ key ∧ s.form.title ≠ key) ∧ c.target key = { title := key } := by
  unfold target
  cases found : c.forms.find? (StoredForm.isNamed · key) with
  | none =>
    refine Or.inr ⟨fun s inside => ?_, rfl⟩
    exact isNamed_eq_false_iff.1 (Bool.eq_false_iff.2 (List.find?_eq_none.1 found s inside))
  | some s =>
    obtain ⟨named, before, after, shape, first⟩ := List.find?_eq_some_iff_append.1 found
    refine Or.inl ⟨before, s, after, ⟨shape, isNamed_iff.1 named, fun r inside => ?_⟩, rfl⟩
    exact isNamed_eq_false_iff.1 (Bool.not_eq_true' _ ▸ first r inside)

/-- A stored form replaced is the first of its title. -/
theorem replaceTitled_append {before after : List StoredForm} {s : StoredForm}
    (other : ∀ r ∈ before, r.form.title ≠ form.title) (same : s.form.title = form.title) :
    replaceTitled form (before ++ s :: after) =
      some (before ++ { s with form := form } :: after, s.id) := by
  induction before with
  | nil => exact if_pos same
  | cons r before ih =>
    obtain ⟨differs, other⟩ := List.forall_mem_cons.1 other
    rw [List.cons_append, replaceTitled, if_neg differs, ih other]
    rfl

theorem replaceTitled_of_untitled {forms : List StoredForm}
    (other : ∀ r ∈ forms, r.form.title ≠ form.title) : replaceTitled form forms = none := by
  induction forms with
  | nil => rfl
  | cons r forms ih =>
    obtain ⟨differs, other⟩ := List.forall_mem_cons.1 other
    rw [replaceTitled, if_neg differs, ih other]
    rfl

theorem upsert_append {before after : List StoredForm} {s : StoredForm}
    (shape : c.forms = before ++ s :: after) (other : ∀ r ∈ before, r.form.title ≠ form.title)
    (same : s.form.title = form.title) :
    c.upsert form now = ({ c with forms := before ++ { s with form := form } :: after }, s.id) := by
  unfold upsert
  rw [shape, replaceTitled_append other same]

theorem upsert_of_untitled (other : ∀ r ∈ c.forms, r.form.title ≠ form.title) :
    c.upsert form now =
      ({ c with forms := c.forms ++ [{ id := formId form.title now, form := form }] },
        formId form.title now) := by
  unfold upsert
  rw [replaceTitled_of_untitled other]

/-- The form that a key names is the one that is looked up. -/
theorem Names.find?_eq {before after : List StoredForm} {s : StoredForm}
    (names : c.Names key before s after) :
    c.forms.find? (StoredForm.isNamed · key) = some s := by
  refine List.find?_eq_some_iff_append.2
    ⟨isNamed_iff.2 names.named, before, after, names.shape, fun r inside => ?_⟩
  rw [isNamed_eq_false_iff.2 (names.first r inside)]
  rfl

theorem Names.target_eq {before after : List StoredForm} {s : StoredForm}
    (names : c.Names key before s after) : c.target key = s.form := by
  unfold target
  rw [names.find?_eq]

/-! ## Adding a field -/

/-- A key without the blanks around it. -/
def bare (key : String) : String := String.ofList (Text.trim key.toList)

/-- Just the form that a key names is different, and has gained a field; if the key names none, a
new form of that title has, which comes after all others. -/
inductive Adds (c : Config) (key : String) (field : Field) (now : Calendar.Instant) :
    Config → String → Prop
  | named {before after : List StoredForm} {s : StoredForm} {form : Definition}
    (names : c.Names key before s after) (gains : s.form.Gains field form) :
    Adds c key field now { c with forms := before ++ { s with form := form } :: after } s.id
  | fresh {form : Definition} (unnamed : ∀ s ∈ c.forms, s.id ≠ key ∧ s.form.title ≠ key)
    (gains : ({ title := key } : Definition).Gains field form) :
    Adds c key field now { c with forms := c.forms ++ [{ id := formId key now, form := form }] }
      (formId key now)

/-- The id is that of the form that the key names. -/
theorem Adds.id_cases (adds : c.Adds key field now d id) :
    (∃ before s after, c.Names key before s after ∧ id = s.id) ∨
    ∀ s ∈ c.forms, s.id ≠ key ∧ s.form.title ≠ key := by
  cases adds with
  | named names => exact Or.inl ⟨_, _, _, names, rfl⟩
  | fresh unnamed => exact Or.inr unnamed

/-- No form before the one that a key names has its title. -/
def TitleFirst (c : Config) (key : String) : Prop :=
  ∀ before s after, c.Names key before s after → ∀ r ∈ before, r.form.title ≠ s.form.title

/-- The configuration after a field was to be added: the one from before, if it cannot be. -/
def added (c : Config) (key : String) (field : Field) (now : Calendar.Instant) : Config :=
  match c.addField key field now with
  | .ok (d, _) => d
  | .error _ => c

/-- A field is added to the form that the key names, if it is a name and the form has a graph
then. -/
theorem addField_eq (c : Config) (key : String) (field : Field) (now : Calendar.Instant) :
    c.addField key field now =
      if (bare key).isEmpty then .error .unnamed
      else
        let form := { c.target (bare key) with
          fields := putField field (c.target (bare key)).fields }
        match Graph.ofDefinition form with
        | .error cause => .error (.form cause)
        | .ok _ => .ok (c.upsert form now) := rfl

theorem added_of_ok (ok : c.addField key field now = .ok (d, id)) :
    c.added key field now = d := by
  unfold added
  rw [ok]

theorem added_of_error {e : AddError} (refused : c.addField key field now = .error e) :
    c.added key field now = c := by
  unfold added
  rw [refused]

/-- What is stored is the form that the key names, with the field put into it. -/
theorem upsert_of_ok (ok : c.addField key field now = .ok (d, id)) :
    bare key ≠ "" ∧ ∃ form, (c.target (bare key)).Gains field form ∧
      form.title = (c.target (bare key)).title ∧ c.upsert form now = (d, id) := by
  rw [addField_eq] at ok
  split at ok
  · cases ok
  · rename_i filled
    refine ⟨fun blank => filled (by rw [blank]; rfl), ?_⟩
    dsimp only at ok
    split at ok
    · cases ok
    · rename_i built
      exact ⟨_, gains_putField built, rfl, Except.ok.inj ok⟩

/-- A field that cannot be added has no name of a form to go to, or no form that can gain it. -/
theorem no_gain_of_error {e : AddError} (refused : c.addField key field now = .error e) :
    bare key = "" ∨ ∀ form, ¬ (c.target (bare key)).Gains field form := by
  rw [addField_eq] at refused
  split at refused
  · rename_i blank
    exact Or.inl (String.isEmpty_iff.1 blank)
  · dsimp only at refused
    split at refused
    · rename_i cause failed
      refine Or.inr fun form gains => ?_
      obtain ⟨g, built⟩ := gains.accepted
      rw [eq_of_gains gains, failed] at built
      cases built
    · cases refused

/-- With no form of the title before it, the form that is looked up is the one that is replaced. -/
theorem adds_of_titleFirst (ok : c.addField key field now = .ok (d, id))
    (first : c.TitleFirst (bare key)) : c.Adds (bare key) field now d id := by
  obtain ⟨-, form, gains, title, stored⟩ := upsert_of_ok ok
  rcases names_cases c (bare key) with ⟨before, s, after, names, target⟩ | ⟨unnamed, target⟩
  · rw [target] at gains title
    have other : ∀ r ∈ before, r.form.title ≠ form.title := by
      rw [title]
      exact first before s after names
    rw [upsert_append names.shape other title.symm] at stored
    cases stored
    exact .named names gains
  · rw [target] at gains title
    have other : ∀ s ∈ c.forms, s.form.title ≠ form.title := by
      rw [title]
      exact fun s inside => (unnamed s inside).2
    rw [upsert_of_untitled other, title] at stored
    cases stored
    exact .fresh unnamed gains

/-- A form of the title before it is replaced instead, and the id is that form's. It is not the
key, which is the id of the form that is looked up. -/
theorem titleFirst_of_adds (ok : c.addField key field now = .ok (d, id))
    (adds : c.Adds (bare key) field now d id) : c.TitleFirst (bare key) := by
  intro before s after names r inside same
  obtain ⟨-, form, -, title, stored⟩ := upsert_of_ok ok
  rw [names.target_eq] at title
  obtain ⟨f, found⟩ : ∃ f, before.find? (·.form.title = s.form.title) = some f :=
    Option.isSome_iff_exists.1 (List.find?_isSome.2 ⟨r, inside, decide_eq_true same⟩)
  obtain ⟨decided, earlier, later, rfl, other⟩ := List.find?_eq_some_iff_append.1 found
  have titled := of_decide_eq_true decided
  simp only [Bool.not_eq_true', decide_eq_false_iff_not] at other
  rw [← title] at titled other
  have shape : c.forms = earlier ++ f :: (later ++ s :: after) := by
    rw [names.shape, List.append_assoc, List.cons_append]
  rw [upsert_append shape other titled] at stored
  cases stored
  obtain ⟨unlike, untitled⟩ := names.first f (by simp)
  rcases adds.id_cases with ⟨_, s', _, names', id⟩ | unnamed
  · have same : s' = s := Option.some.inj (names'.find?_eq.symm.trans names.find?_eq)
    subst same
    rcases names.named with key | key
    · exact unlike (id.trans key)
    · exact untitled (titled.trans (title.trans key))
  · obtain ⟨unlike, untitled⟩ := unnamed s (names.shape ▸ List.mem_append_cons_self)
    exact names.named.elim unlike untitled

/-- **What adding a field does.** The field cannot be added, and the configuration stays as it is.
Or it is added: the form that the key names gains it and nothing else is different, exactly when no
form before that one has its title. -/
theorem addField_outcome (c : Config) (key : String) (field : Field) (now : Calendar.Instant) :
    (∃ e, c.addField key field now = .error e ∧ c.added key field now = c ∧
      (bare key = "" ∨ ∀ form, ¬ (c.target (bare key)).Gains field form)) ∨
    ∃ d id, c.addField key field now = .ok (d, id) ∧ c.added key field now = d ∧ bare key ≠ "" ∧
      (c.Adds (bare key) field now d id ↔ c.TitleFirst (bare key)) := by
  cases outcome : c.addField key field now with
  | error e => exact Or.inl ⟨e, rfl, added_of_error outcome, no_gain_of_error outcome⟩
  | ok result =>
    obtain ⟨d, id⟩ := result
    exact Or.inr ⟨d, id, rfl, added_of_ok outcome, (upsert_of_ok outcome).1,
      titleFirst_of_adds outcome, adds_of_titleFirst outcome⟩

/-! ## Two forms of one title -/

/-- A trip to a city. -/
def cityTrip : StoredForm where
  id := "trip-1"
  form := { title := "Trip", fields := [{ id := "city", label := "City", kind := .text }] }

/-- Another trip, with a hotel. -/
def hotelTrip : StoredForm where
  id := "trip-2"
  form := { title := "Trip", fields := [{ id := "hotel", label := "Hotel", kind := .text }] }

/-- **A field that goes to another form.** The key names the second trip, and the field is put into
a copy of it: the copy is stored in place of the first trip, and the second stays as it is. -/
theorem addField_misplaced :
    let c : Config := { forms := [cityTrip, hotelTrip] }
    let nights : Field := { id := "nights", label := "Nights", kind := .number }
    Config.load c.save = .ok c ∧ c.Names "trip-2" [cityTrip] hotelTrip [] ∧
      (c.addField "trip-2" nights 0).toOption =
        some ({ c with forms := [
          { cityTrip with
            form := { hotelTrip.form with fields := hotelTrip.form.fields ++ [nights] } },
          hotelTrip] }, "trip-1") := by
  intro c nights
  have storable : c.Storable := by
    refine ⟨fun s inside => ?_, fun n given => ?_⟩
    · have inside := List.mem_pair.1 inside
      rcases inside with rfl | rfl <;>
      · intro f among name x limit
        rw [List.mem_singleton.1 among] at limit
        cases name <;> cases limit
    · cases given
  have names : c.Names "trip-2" [cityTrip] hotelTrip [] :=
    ⟨rfl, Or.inl rfl, by decide⟩
  exact ⟨Config.load_save storable, names, by decide +kernel⟩

end Config

end Formulary
