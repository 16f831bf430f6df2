import Formulary.Config
import Formulary.Proofs.JsonText
import Formulary.Proofs.Renewal

/-!
# Forms and configurations are read back

What is written for a record is a list of keys that may have values (`Members.given`), each key
once. A reader finds under each key what was written for it (`get?_given`), so a record is read back
once each of its values is.

* `stored_read_back`: a form is read back from its text, and a configuration from the text that is
  saved.
-/

namespace Formulary

/-! ## Records -/

namespace Members

/-- The members of a record: the keys that have a value. -/
def given (entries : List (String × Option Json)) : Members :=
  entries.filterMap fun (key, value) => value.map (key, ·)

variable {entries : List (String × Option Json)}

theorem given_nil : given [] = [] := rfl

theorem given_some (key : String) (v : Json) (entries : List (String × Option Json)) :
    given ((key, some v) :: entries) = (key, v) :: given entries := rfl

theorem given_none (key : String) (entries : List (String × Option Json)) :
    given ((key, none) :: entries) = given entries := rfl

theorem given_map {α : Type} (key : String) (write : α → Json) (value : Option α)
    (entries : List (String × Option Json)) :
    given ((key, value.map write) :: entries) = ofOption key write value ++ given entries := by
  cases value <;> rfl

theorem given_unless (key : String) (b : Bool) (v : Json) (entries : List (String × Option Json)) :
    given ((key, if b then none else some v) :: entries) =
      (if b then [] else [(key, v)]) ++ given entries := by
  cases b <;> rfl

theorem keys_given : ((given entries).map Prod.fst).Sublist (entries.map Prod.fst) := by
  induction entries with
  | nil => exact List.Sublist.refl _
  | cons entry entries ih =>
    obtain ⟨key, value⟩ := entry
    cases value with
    | none => exact ih.cons key
    | some v => exact ih.cons_cons key

/-- What is found under a key is what was given for it. -/
theorem get?_given (once : (entries.map Prod.fst).Nodup) (key : String) :
    (given entries).get? key = (entries.lookup key).join := by
  induction entries with
  | nil => rfl
  | cons entry entries ih =>
    obtain ⟨k, value⟩ := entry
    obtain ⟨fresh, later⟩ := List.nodup_cons.1 once
    by_cases same : key = k
    · subst same
      rw [List.lookup_cons_self]
      cases value with
      | none =>
        refine List.lookup_eq_none_iff.2 fun m among => ?_
        have inside : m.1 ∈ entries.map Prod.fst := keys_given.subset (List.mem_map_of_mem among)
        exact bne_iff_ne.2 fun same => fresh (same ▸ inside)
      | some v => exact List.lookup_cons_self
    · have other : (key == k) = false := beq_false_of_ne same
      rw [List.lookup_cons, other]
      cases value with
      | none => exact ih later
      | some v =>
        show List.lookup key ((k, v) :: given entries) = _
        rw [List.lookup_cons, other]
        exact ih later

theorem onceEach_given (once : (entries.map Prod.fst).Nodup) (keys : List String) :
    Json.onceEach keys (given entries) = true := by
  refine List.all_eq_true.2 fun key _ => decide_eq_true ?_
  have count := List.nodup_iff_count.1 (once.sublist keys_given) key
  rw [List.count, List.countP_map] at count
  rw [← List.countP_eq_length_filter]
  exact count

/-- A value that may be left out is read back by a reader that refuses null. -/
theorem optional?_given {α : Type} {members : Members} {key : String} {read : Json → Option α}
    {write : α → Json} {value : Option α} (found : members.get? key = value.map write)
    (back : ∀ x ∈ value, read (write x) = some x) (strict : read .null = none) :
    members.optional? key read = some value := by
  unfold optional?
  rw [found]
  cases value with
  | none => rfl
  | some x =>
    have back := back x rfl
    dsimp only [Option.map_some]
    split
    · rename_i none
      cases none
    · rename_i null
      rw [Option.some.inj null, strict] at back
      cases back
    · rename_i v _ whole
      rw [← Option.some.inj whole, back]
      rfl

/-- A value that may be null is read back as well. -/
theorem optional?_nullable {α : Type} {members : Members} {key : String} {read : Json → Option α}
    {write : α → Json} {value : Option α}
    (found : members.get? key = some ((value.map write).getD .null))
    (back : ∀ x ∈ value, read (write x) = some x) (strict : read .null = none) :
    members.optional? key read = some value := by
  cases value with
  | none =>
    unfold optional?
    rw [found]
    rfl
  | some x => exact optional?_given found back strict

end Members

open Json (Kept)

theorem kept_given {n : Nat} {entries : List (String × Option Json)}
    (each : ∀ e ∈ entries, ∀ v ∈ e.2, Kept n v) :
    Kept (n + 1) (.object (Members.given entries)) := by
  refine .object fun m among => ?_
  obtain ⟨e, inside, made⟩ := List.mem_filterMap.1 among
  obtain ⟨v, value, rfl⟩ := Option.map_eq_some_iff.1 made
  exact each e inside v value

theorem kept_map {α : Type} {n : Nat} {write : α → Json} {value : Option α}
    (each : ∀ x ∈ value, Kept n (write x)) : ∀ v ∈ value.map write, Kept n v := by
  intro v made
  obtain ⟨x, inside, rfl⟩ := Option.map_eq_some_iff.1 made
  exact each x inside

theorem kept_text {n : Nat} {value : Option String} : ∀ v ∈ value.map Json.string, Kept n v :=
  kept_map fun s _ => .string s

/-! ## Properties and kinds -/

namespace Form

open Template (Property)

theorem readProperty?_propertyJson {α : Type} {read : Json → Option α} {write : α → Json}
    {p : Property α} (back : ∀ x, p = .fixed x → read (write x) = some x)
    (plain : ∀ x, Json.object? ["expression"] (write x) = none) :
    readProperty? read (propertyJson write p) = some p := by
  cases p with
  | fixed x =>
    unfold readProperty? propertyJson
    rw [plain]
    show (read (write x)).map Property.fixed = _
    rw [back x rfl]
    rfl
  | expression source => rfl

theorem kept_propertyJson {α : Type} {n : Nat} {write : α → Json} {p : Property α}
    (fixed : ∀ x, p = .fixed x → Kept (n + 1) (write x)) : Kept (n + 1) (propertyJson write p) := by
  cases p with
  | fixed x => exact fixed x rfl
  | expression source =>
    refine .object fun m among => ?_
    rw [List.mem_singleton.1 among]
    exact .string source

theorem list?_map {α : Type} {read : Json → Option α} {write : α → Json} {xs : List α}
    (back : ∀ x ∈ xs, read (write x) = some x) :
    Json.list? read (.array (xs.map write)) = some xs := by
  show (xs.map write).mapM read = some xs
  induction xs with
  | nil => rfl
  | cons x xs ih =>
    rw [List.map_cons, List.mapM_cons, back x List.mem_cons_self,
      ih fun y among => back y (List.mem_cons_of_mem _ among)]
    rfl

/-- The options of the kind. -/
def Kind.options? : Kind → Option (Property (List String))
  | .dropdown options => options
  | _ => none

/-- What is written for a field. -/
def Field.entries (f : Field) : List (String × Option Json) := [
  ("class_name", some (.string f.id)),
  ("name", some (.string f.label)),
  ("type", some (.string f.kind.name)),
  ("min_limit", (f.limit? .least).map (propertyJson .float)),
  ("max_limit", (f.limit? .greatest).map (propertyJson .float)),
  ("step", (f.limit? .step).map (propertyJson .float)),
  ("options", f.kind.options?.map (propertyJson Json.ofStrings)),
  ("content", f.content.map (propertyJson .string)),
  ("placeholder", f.placeholder.map .string),
  ("description", f.description.map .string),
  ("hide_expression", f.hide.map .string),
  ("required", some (.bool f.required)),
  ("write_to_output_note", if f.written then none else some (.bool false)),
  ("bypass_value_expression_evaluation", some (.bool f.verbatim))]

theorem Field.toJson_eq (f : Field) : f.toJson = .object (Members.given f.entries) := by
  unfold toJson entries
  cases kind : f.kind <;>
    simp [Kind.members, limit?, kind, Kind.options?, Members.given_some, Members.given_map,
      Members.given_none, Members.given_unless, Members.given_nil]

theorem Field.once (f : Field) : (f.entries.map Prod.fst).Nodup := by
  show List.Nodup ["class_name", "name", "type", "min_limit", "max_limit", "step", "options",
    "content", "placeholder", "description", "hide_expression", "required", "write_to_output_note",
    "bypass_value_expression_evaluation"]
  decide

theorem Field.get?_entries (f : Field) (key : String) :
    (Members.given f.entries).get? key = (f.entries.lookup key).join :=
  Members.get?_given f.once key

theorem Kind.ofMembers?_entries (f : Field) :
    Kind.ofMembers? (Members.given f.entries) = some f.kind := by
  have once (keys : List String) := Members.onceEach_given f.once keys
  have limit (key : String) (name : PropertyName)
      (entry : (f.entries.lookup key).join = (f.limit? name).map (propertyJson .float)) :
      (Members.given f.entries).optional? key (readProperty? Json.double?) =
        some (f.limit? name) :=
    Members.optional?_given ((f.get?_entries key).trans entry)
      (fun p _ => readProperty?_propertyJson (fun _ _ => rfl) (fun _ => rfl)) rfl
  have options : (Members.given f.entries).optional? "options"
      (readProperty? (Json.list? Json.string?)) = some f.kind.options? :=
    Members.optional?_given (f.get?_entries _)
      (fun p _ => readProperty?_propertyJson (fun x _ => list?_map fun _ _ => rfl) (fun _ => rfl))
      rfl
  have shown : (Members.given f.entries).get? "type" = some (.string f.kind.name) :=
    f.get?_entries _
  unfold ofMembers?
  rw [once, shown]
  cases kind : f.kind with
  | range least greatest step =>
    have least := limit "min_limit" .least rfl
    have greatest := limit "max_limit" .greatest rfl
    have step := limit "step" .step rfl
    simp only [Field.limit?, kind] at least greatest step
    show Kind.complete? (Members.given f.entries) (.range none none none) = _
    unfold complete?
    rw [once rangeKeys, least, greatest, step]
    rfl
  | dropdown source =>
    rw [kind] at options
    show Kind.complete? (Members.given f.entries) (.dropdown none) = _
    unfold complete?
    rw [once dropdownKeys, options]
    rfl
  | _ => rfl

theorem Field.ofJson?_toJson (f : Field) : Field.ofJson? f.toJson = some f := by
  have once (keys : List String) := Members.onceEach_given f.once keys
  have found := f.get?_entries
  have text (key : String) {value : Option String}
      (entry : (f.entries.lookup key).join = value.map .string) :
      (Members.given f.entries).optional? key Json.string? = some value :=
    Members.optional?_given ((found key).trans entry) (fun _ _ => rfl) rfl
  have content : (Members.given f.entries).optional? "content" (readProperty? Json.string?) =
      some f.content :=
    Members.optional?_given (found _)
      (fun p _ => readProperty?_propertyJson (fun _ _ => rfl) (fun _ => rfl)) rfl
  have written : (Members.given f.entries).getOr? "write_to_output_note" Json.bool? true =
      some f.written := by
    unfold Members.getOr?
    have entry : f.entries.lookup "write_to_output_note" =
        some (if f.written then none else some (.bool false)) := rfl
    rw [found, entry]
    cases f.written <;> rfl
  have object : Json.object? fieldKeys f.toJson = some (Members.given f.entries) := by
    rw [f.toJson_eq]
    exact if_pos (once _)
  unfold ofJson?
  rw [object]
  simp only [Option.bind_eq_bind, Option.bind_some, Kind.ofMembers?_entries, content, written]
  rw [text "placeholder" rfl, text "description" rfl, text "hide_expression" rfl]
  unfold Members.need? Members.getOr?
  simp only [found]
  rfl

/-- The limits of the field that are fixed are finite. -/
def Field.Storable (f : Field) : Prop :=
  ∀ name x, f.limit? name = some (.fixed x) → x.isFinite = true

theorem Field.kept {f : Field} (storable : f.Storable) : Kept 2 f.toJson := by
  rw [f.toJson_eq]
  apply kept_given
  have limit (name : PropertyName) :
      ∀ v ∈ (f.limit? name).map (propertyJson .float), Kept 1 v :=
    kept_map fun p given => kept_propertyJson fun x fixed =>
      .float (storable name x (fixed ▸ given))
  have options : ∀ v ∈ f.kind.options?.map (propertyJson Json.ofStrings), Kept 1 v := by
    refine kept_map fun p _ => kept_propertyJson fun xs _ => .array fun v among => ?_
    obtain ⟨s, -, rfl⟩ := List.mem_map.1 among
    exact .string s
  have content : ∀ v ∈ f.content.map (propertyJson .string), Kept 1 v :=
    kept_map fun p _ => kept_propertyJson fun s _ => .string s
  have mark : ∀ v ∈ (if f.written then none else some (Json.bool false)), Kept 1 v := by
    cases f.written with
    | true => exact fun v none => by cases none
    | false => exact fun v given => by cases given; exact .bool false
  simp only [Field.entries, List.forall_mem_cons, Option.mem_some_iff, forall_eq']
  exact ⟨.string _, .string _, .string _, limit _, limit _, limit _, options, content, kept_text,
    kept_text, kept_text, .bool _, mark, .bool _, by simp⟩

/-! ## Forms -/

/-- What is written for a form. -/
def Definition.entries (form : Definition) : List (String × Option Json) := [
  ("title", some (.string form.title)),
  ("description", form.description.map .string),
  ("path", some (.string form.folder)),
  ("output_name", form.outputName.map .string),
  ("submit_label", form.submitLabel.map .string),
  ("fields", some (.array (form.fields.map Field.toJson)))]

theorem Definition.toJson_eq (form : Definition) :
    form.toJson = .object (Members.given form.entries) := by
  unfold toJson members entries
  simp only [Members.given_some, Members.given_map, Members.given_nil, List.append_assoc,
    List.cons_append, List.nil_append]

theorem Definition.once (form : Definition) : (form.entries.map Prod.fst).Nodup := by
  show List.Nodup formKeys
  decide

theorem Definition.ofJson?_toJson (form : Definition) :
    Definition.ofJson? form.toJson = some form := by
  have found (key : String) : (Members.given form.entries).get? key =
      (form.entries.lookup key).join :=
    Members.get?_given form.once key
  have text (key : String) {value : Option String}
      (entry : (form.entries.lookup key).join = value.map .string) :
      (Members.given form.entries).optional? key Json.string? = some value :=
    Members.optional?_given ((found key).trans entry) (fun _ _ => rfl) rfl
  have fields : (Members.given form.entries).getOr? "fields" (Json.list? Field.ofJson?) [] =
      some form.fields := by
    unfold Members.getOr?
    rw [found]
    exact list?_map fun f _ => f.ofJson?_toJson
  have object : form.toJson.record? formKeys = some (Members.given form.entries) := by
    rw [form.toJson_eq]
    exact if_pos (Members.onceEach_given form.once _)
  unfold ofJson?
  rw [object]
  show ofMembers? (Members.given form.entries) = some form
  unfold ofMembers?
  rw [text "description" rfl, text "output_name" rfl, text "submit_label" rfl, fields]
  unfold Members.need? Members.getOr?
  rw [found, found]
  rfl

/-- The fixed limits of all fields are finite. -/
def Definition.Storable (form : Definition) : Prop := ∀ f ∈ form.fields, f.Storable

theorem Definition.kept {form : Definition} (storable : form.Storable) : Kept 4 form.toJson := by
  rw [form.toJson_eq]
  apply kept_given
  have fields : Kept 3 (.array (form.fields.map Field.toJson)) := by
    refine .array fun v among => ?_
    obtain ⟨f, inside, rfl⟩ := List.mem_map.1 among
    exact Field.kept (storable f inside)
  simp only [entries, List.forall_mem_cons, Option.mem_some_iff, forall_eq']
  exact ⟨.string _, kept_text, .string _, kept_text, kept_text, fields, by simp⟩

end Form

/-! ## Configurations -/

namespace Config

theorem StoredForm.ofJson?_toJson (s : StoredForm) :
    StoredForm.ofJson? (StoredForm.toJson s) = some s := by
  show (do
    return {
      id := ← some s.id
      active := ← some s.active
      form := ← Form.Definition.ofJson? s.form.toJson : StoredForm }) = _
  rw [s.form.ofJson?_toJson]
  rfl

theorem ofJson?_toJson {c : Config} (small : ∀ n ∈ c.debounce, n < 2 ^ 64) :
    Config.ofJson? c.toJson = some c := by
  have forms : Json.list? StoredForm.ofJson? (.array (c.forms.map StoredForm.toJson)) =
      some c.forms :=
    Form.list?_map fun s _ => StoredForm.ofJson?_toJson s
  have nat : ∀ n ∈ c.debounce, nat64? (.int n) = some n := by
    intro n given
    have small := small n given
    have fits : (0 : Int) ≤ n ∧ (n : Int) < 2 ^ 64 := by omega
    unfold nat64?
    dsimp only
    rw [if_pos fits, Int.toNat_natCast]
  let members : Members := [
    ("vault_path", (c.vaultPath.map Json.string).getD .null),
    ("debounce_ms", (c.debounce.map fun n : Nat => Json.int n).getD .null),
    ("forms", .array (c.forms.map StoredForm.toJson))]
  have vault : members.optional? "vault_path" Json.string? = some c.vaultPath :=
    Members.optional?_nullable rfl (fun _ _ => rfl) rfl
  have given : members.get? "debounce_ms" =
      some ((c.debounce.map fun n : Nat => Json.int n).getD .null) := rfl
  have debounce := Members.optional?_nullable given nat rfl
  show (do
    return {
      vaultPath := ← members.optional? "vault_path" Json.string?
      debounce := ← members.optional? "debounce_ms" nat64?
      forms := ← Json.list? StoredForm.ofJson? (.array (c.forms.map StoredForm.toJson)) :
        Config }) = _
  rw [vault, debounce, forms]
  rfl

/-- The forms can be stored, and the delay has 64 bits. -/
structure Storable (c : Config) : Prop where
  forms : ∀ s ∈ c.forms, s.form.Storable
  debounce : ∀ n ∈ c.debounce, n < 2 ^ 64

theorem kept {c : Config} (storable : c.Storable) : Kept 7 c.toJson := by
  have nullable {α : Type} {write : α → Json} {value : Option α}
      (each : ∀ x ∈ value, Kept 6 (write x)) : Kept 6 ((value.map write).getD .null) := by
    cases value with
    | none => exact .null
    | some x => exact each x rfl
  have debounce : ∀ n ∈ c.debounce, Kept 6 (.int (n : Nat)) := by
    intro n given
    have small := storable.debounce n given
    exact .int (by omega) (by omega)
  have forms : Kept 6 (.array (c.forms.map StoredForm.toJson)) := by
    refine .array fun v among => ?_
    obtain ⟨s, inside, rfl⟩ := List.mem_map.1 among
    have form := Form.Definition.kept (storable.forms s inside)
    refine .object (List.forall_mem_cons.2 ⟨.string _, List.forall_mem_cons.2 ⟨.bool _, ?_⟩⟩)
    exact List.forall_mem_singleton.2 form
  refine .object (List.forall_mem_cons.2 ⟨nullable fun s _ => .string s, ?_⟩)
  exact List.forall_mem_cons.2 ⟨nullable debounce, List.forall_mem_singleton.2 forms⟩

end Config

/-! ## Texts -/

theorem Form.Definition.ofText?_text {form : Definition} (storable : form.Storable) :
    Definition.ofText? form.text.toList = some form := by
  have kept := (Definition.kept storable).mono (show 4 ≤ Json.depthLimit by decide)
  unfold ofText? text Json.text
  rw [String.toList_ofList, Json.written?_chars kept]
  exact form.ofJson?_toJson

theorem Config.load_save {c : Config} (storable : c.Storable) : Config.load c.save = .ok c := by
  have kept := (Config.kept storable).mono (show 7 ≤ Json.depthLimit by decide)
  have read : load? c.save = some c := by
    unfold load? save Json.indentedText
    rw [String.toList_ofList, Json.written?_indentedChars kept]
    exact ofJson?_toJson storable.debounce
  unfold load
  rw [read]

/-- **What is stored is read back**: a form from its text, and a configuration from the text that is
saved. -/
theorem stored_read_back :
    (∀ form : Form.Definition, form.Storable →
      Form.Definition.ofText? form.text.toList = some form) ∧
    (∀ c : Config, c.Storable → Config.load c.save = .ok c) :=
  ⟨fun _ => Form.Definition.ofText?_text, fun _ => Config.load_save⟩

/-- A range from one to the value of another field. -/
theorem stored_read_back_range :
    let least := Binary64.ofInt 1
    let score : Form.Field :=
      { id := "score", label := "Score"
        kind := .range (some (.fixed least)) (some (.expression "{{$$.top}}")) none }
    let form : Form.Definition := { title := "Game", fields := [score] }
    let config : Config :=
      { vaultPath := some "notes", debounce := some 300
        forms := [{ id := "game-1", form := form }] }
    form.Storable ∧ Form.Definition.ofText? form.text.toList = some form ∧
      config.Storable ∧ Config.load config.save = .ok config := by
  intro least score form config
  have storable : form.Storable := by
    intro f inside name x given
    rw [List.mem_singleton.1 inside] at given
    have finite : least.isFinite = true := by decide
    cases name <;> cases given
    exact finite
  have stored : config.Storable := by
    refine ⟨fun s inside => ?_, fun n given => ?_⟩
    · rw [List.mem_singleton.1 inside]
      exact storable
    · cases given
      decide
  exact ⟨storable, stored_read_back.1 form storable, stored, stored_read_back.2 config stored⟩

end Formulary
