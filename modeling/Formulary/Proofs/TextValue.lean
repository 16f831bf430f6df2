import Formulary.Proofs.Mention
import Formulary.Template.Evaluate
import Mathlib.Data.List.Basic

/-!
# What the value of a text depends on

Looking up references writes to a record of lookups and notices, and never reads it
(`Recording`), so a property text has a value of its own, `valueOfText`. Of the fields' values it
depends on those alone that the text mentions.

* `recording_evaluateText`: evaluating a text gives its `valueOfText`, whatever is on record.
* `evaluateText_congr`: two contexts that agree on the fields a text refers to make no difference,
  neither to the value nor to the record.
-/

namespace Formulary.Template

/-! ## The record is only written -/

/-- The record with another one after it. -/
def Trace.append (t u : Trace) : Trace := ⟨t.lookups ++ u.lookups, t.notices ++ u.notices⟩

theorem Trace.append_empty (t : Trace) : t.append {} = t := by
  simp [append]

theorem Trace.append_assoc (t u v : Trace) : (t.append u).append v = t.append (u.append v) := by
  simp [append, List.append_assoc]

/-- A computation that writes to the record, and gives the same, whatever is on record. -/
def Recording {α : Type} (m : ResolveM α) : Prop :=
  ∀ t : Trace, m.run t = ((m.run {}).1, t.append (m.run {}).2)

/-- What a computation gives. -/
def answer {α : Type} (m : ResolveM α) : α := (m.run {}).1

section Recording

variable {α β : Type}

theorem recording_pure (a : α) : Recording (pure a : ResolveM α) := by
  intro t
  show (a, t) = (a, t.append {})
  rw [t.append_empty]

theorem recording_raise (notice : Notice) : Recording (raise notice) := by
  intro t
  show ((), Trace.mk t.lookups (t.notices ++ [notice])) =
    ((), t.append ⟨[], [] ++ [notice]⟩)
  simp [Trace.append]

theorem recording_ask (lookup : Lookup) (a : α) : Recording (ask lookup a) := by
  intro t
  show (a, Trace.mk (t.lookups ++ [lookup]) t.notices) = (a, t.append ⟨[] ++ [lookup], []⟩)
  simp [Trace.append]

theorem bind_run (m : ResolveM α) (f : α → ResolveM β) (t : Trace) :
    (m >>= f).run t = (f (m.run t).1).run (m.run t).2 := rfl

theorem Recording.bind {m : ResolveM α} {f : α → ResolveM β} (first : Recording m)
    (later : ∀ a, Recording (f a)) : Recording (m >>= f) := by
  intro t
  rw [bind_run, bind_run, first t, later _ (t.append _), later _ (m.run {}).2, Trace.append_assoc]

theorem answer_bind_congr {m : ResolveM α} {f f' : α → ResolveM β}
    (h : f (answer m) = f' (answer m)) : answer (m >>= f) = answer (m >>= f') :=
  congrArg (fun n : ResolveM β => (n.run (m.run {}).2).1) h

/-- What comes of a computation whose second part is plain. -/
theorem answer_bind_eq {m : ResolveM α} {f : α → ResolveM β} {b : β}
    (h : f (answer m) = pure b) : answer (m >>= f) = b :=
  congrArg (fun n : ResolveM β => (n.run (m.run {}).2).1) h

end Recording

theorem recording_folderContent (store : DocumentStore) (path : List Char) :
    Recording (folderContent store path) := by
  refine (recording_ask _ _).bind fun names => ?_
  cases names with
  | some names => exact recording_pure _
  | none => exact (recording_raise _).bind fun _ => recording_pure _

theorem recording_noteContent (store : DocumentStore) (path : List Char) :
    Recording (noteContent store path) := by
  unfold noteContent
  cases notePath path with
  | error extension => exact (recording_raise _).bind fun _ => recording_pure _
  | ok path =>
    refine (recording_ask _ _).bind fun note => ?_
    cases note with
    | none => exact (recording_raise _).bind fun _ => recording_pure _
    | some note =>
      refine (recording_ask _ _).bind fun members => ?_
      cases members with
      | ok members => exact recording_pure _
      | error reason => exact (recording_raise _).bind fun _ => recording_pure _

theorem recording_documentContent (store : DocumentStore) (path : List Char) :
    Recording (documentContent store path) := by
  unfold documentContent
  split
  · exact recording_folderContent store path
  · exact recording_noteContent store path

theorem recording_resolveCuts (store : DocumentStore) (context : Context) (cuts : List Cut) :
    Recording (resolveCuts store context cuts) := by
  induction cuts with
  | nil => exact recording_pure _
  | cons cut cuts ih =>
    cases cut with
    | text s => exact ih.bind fun _ => recording_pure _
    | reference path =>
      exact (recording_documentContent store _).bind fun _ => ih.bind fun _ => recording_pure _

theorem recording_resolve (store : DocumentStore) (context : Context) (s : List Char) :
    Recording (resolve store context s) :=
  recording_resolveCuts store context (documentCuts s)

theorem recording_evaluateText (now : Calendar.Instant) (store : DocumentStore)
    (context : Context) (raw : String) : Recording (evaluateText now store context raw) := by
  unfold evaluateText
  dsimp only
  split
  · exact recording_pure _
  · refine (recording_resolve store context _).bind fun resolved => ?_
    split
    · split <;> exact recording_pure _
    · exact (recording_raise _).bind fun _ => recording_pure _

theorem recording_evaluate {α : Type} (now : Calendar.Instant) (store : DocumentStore)
    (context : Context) (toJson : α → Json) (property : Property α) :
    Recording (evaluate now store context toJson property) := by
  cases property with
  | fixed value => exact recording_pure _
  | expression source => exact recording_evaluateText now store context source

/-- The value of a property text for some values of the fields. -/
def valueOfText (now : Calendar.Instant) (store : DocumentStore) (context : Context)
    (raw : String) : Json :=
  answer (evaluateText now store context raw)

/-! ## The fields that are read -/

/-- The text that a cut stands for, without the marks of a reference. -/
def Cut.inner : Cut → List Char
  | .text s => s
  | .reference name => name

/-- A text mentions what a stretch of it does, where no field character follows the stretch. -/
theorem Mentions.within {s name : List Char} (h : Mentions s name) (before after : List Char)
    (ends : ∀ c ∈ after.head?, isFieldChar c = false) :
    Mentions (before ++ s ++ after) name := by
  rcases h with ⟨front, back, rfl, nonempty, inside, outside⟩
  refine ⟨before ++ front, back ++ after, by simp, nonempty, inside, ?_⟩
  cases back with
  | nil => exact ends
  | cons c back => exact outside

theorem closingSign?_eq_some {s path rest : List Char} (h : closingSign? s = some (path, rest)) :
    s = path ++ '%' :: '%' :: rest := by
  induction s using closingSign?.induct generalizing path with
  | case1 s =>
    cases h
    rfl
  | case2 s => cases h
  | case3 c s notClosed notBreak ih =>
    rw [closingSign?.eq_3 _ _ notClosed notBreak] at h
    rcases Option.map_eq_some_iff.1 h with ⟨⟨path', rest'⟩, found, shape⟩
    cases shape
    rw [ih found]
    rfl
  | case4 => cases h

theorem documentAt?_eq_some {s path rest : List Char} (h : documentAt? s = some (path, rest)) :
    s = '%' :: '%' :: (path ++ '%' :: '%' :: rest) := by
  unfold documentAt? at h
  split at h
  · rw [closingSign?_eq_some h]
  · cases h

theorem mem_flush {cut : Cut} {text : List Char} {cuts : List Cut}
    (h : cut ∈ Cut.flush text cuts) : cut = .text text.reverse ∨ cut ∈ cuts := by
  unfold Cut.flush at h
  split at h
  · exact Or.inr h
  · exact List.mem_cons.1 h

theorem mentions_of_mem_documentCutsFrom {text s name : List Char} {cut : Cut}
    (member : cut ∈ documentCutsFrom text s) (mentioned : Mentions cut.inner name) :
    Mentions (text.reverse ++ s) name := by
  have sign : ∀ (t : List Char), ∀ c ∈ ('%' :: t).head?, isFieldChar c = false := by
    rintro t c ⟨⟩
    decide
  fun_induction documentCutsFrom text s with
  | case1 text s path rest h shorter ih =>
    rw [documentAt?_eq_some h]
    rcases mem_flush member with rfl | member
    · exact mentioned.within [] _ (sign _)
    · rcases List.mem_cons.1 member with rfl | member
      · have wider : Mentions path name := mentioned
        simpa using wider.within (text.reverse ++ ['%', '%']) ('%' :: '%' :: rest) (sign _)
      · have wider := (ih member).within (text.reverse ++ '%' :: '%' :: path ++ ['%', '%']) []
        simpa using wider (by simp)
  | case2 text h =>
    rcases mem_flush member with rfl | member
    · rw [List.append_nil]
      exact mentioned
    · exact absurd member List.not_mem_nil
  | case3 text c s h ih => simpa using ih member

/-- What a stretch between document references mentions, or the path in one, the text mentions. -/
theorem mentions_of_mem_documentCuts {s name : List Char} {cut : Cut}
    (member : cut ∈ documentCuts s) (mentioned : Mentions cut.inner name) : Mentions s name :=
  mentions_of_mem_documentCutsFrom member mentioned

theorem cut?_eq_some {needle s before after : List Char}
    (h : Text.cut? needle s = some (before, after)) : s = before ++ needle ++ after := by
  induction s generalizing before with
  | nil =>
    rw [Text.cut?] at h
    split at h
    · rename_i empty
      cases h
      rw [List.isEmpty_iff.1 empty]
      rfl
    · cases h
  | cons c s ih =>
    rw [Text.cut?] at h
    split at h
    · rename_i found
      cases h
      exact (List.append_eq_of_isPrefixOf?_eq_some found).symm
    · rcases Option.map_eq_some_iff.1 h with ⟨⟨before', after'⟩, found, shape⟩
      cases shape
      rw [ih found]
      rfl

theorem cutLast?_eq_some {needle s before after : List Char}
    (h : Text.cutLast? needle s = some (before, after)) : s = before ++ needle ++ after := by
  rcases Option.map_eq_some_iff.1 h with ⟨⟨after', before'⟩, found, shape⟩
  cases shape
  have whole := congrArg List.reverse (cut?_eq_some found)
  simpa using whole

/-- What the block of a text mentions, the text mentions. -/
theorem mentions_of_expression {raw name : List Char}
    (h : Mentions (Parts.ofText raw).expression name) : Mentions raw name := by
  unfold Parts.ofText at h
  split at h
  · exact absurd h (not_mentions_nil name)
  · rename_i before rest opened
    split at h
    · exact absurd h (not_mentions_nil name)
    · rename_i expression after closed
      have wider := h.within (before ++ openBlock) (closeBlock ++ after) (by
        rintro c ⟨⟩
        decide)
      rw [cut?_eq_some opened, cutLast?_eq_some closed]
      simpa using wider

/-! ## Contexts that agree -/

variable {context context' : Context}

/-- The contexts agree on the fields that a text mentions. -/
def AgreeOn (context context' : Context) (s : List Char) : Prop :=
  ∀ id : String, Mentions s id.toList → context id = context' id

theorem fieldValue_congr {s name : List Char} (agree : AgreeOn context context' s)
    (member : Cut.reference name ∈ fieldCuts s) :
    fieldValue context name = fieldValue context' name := by
  have named : name ∈ names (fieldCuts s) :=
    List.mem_filterMap.2 ⟨.reference name, member, rfl⟩
  have mentioned := (mem_names_fieldCutsFrom []).1 named
  rw [fieldValue, agree (String.ofList name) (by rwa [String.toList_ofList])]
  rfl

theorem quoteFields_congr {s : List Char} (agree : AgreeOn context context' s) :
    quoteFields context s = quoteFields context' s := by
  refine List.flatMap_congr fun cut member => ?_
  cases cut with
  | text s => rfl
  | reference name => simp only [fieldValue_congr agree member]

theorem spliceFields_congr {s : List Char} (agree : AgreeOn context context' s) :
    spliceFields context s = spliceFields context' s := by
  refine List.flatMap_congr fun cut member => ?_
  cases cut with
  | text s => rfl
  | reference name => exact fieldValue_congr agree member

theorem resolveCuts_congr (store : DocumentStore) {cuts : List Cut}
    (agree : ∀ cut ∈ cuts, AgreeOn context context' cut.inner) :
    resolveCuts store context cuts = resolveCuts store context' cuts := by
  induction cuts with
  | nil => rfl
  | cons cut cuts ih =>
    have first := agree cut List.mem_cons_self
    have later := ih fun cut member => agree cut (List.mem_cons_of_mem _ member)
    cases cut with
    | text s =>
      rw [Cut.inner] at first
      rw [resolveCuts, resolveCuts, quoteFields_congr first, later]
    | reference path =>
      rw [Cut.inner] at first
      rw [resolveCuts, resolveCuts, spliceFields_congr first, later]

theorem resolve_congr (store : DocumentStore) {s : List Char}
    (agree : AgreeOn context context' s) : resolve store context s = resolve store context' s :=
  resolveCuts_congr store fun _ member id mentioned =>
    agree id (mentions_of_mem_documentCuts member mentioned)

/-- **A text reads only the fields it mentions.** -/
theorem evaluateText_congr (now : Calendar.Instant) (store : DocumentStore) {raw : String}
    (agree : AgreeOn context context' raw.toList) :
    evaluateText now store context raw = evaluateText now store context' raw := by
  have inner : AgreeOn context context' (Parts.ofText raw.toList).expression :=
    fun id mentioned => agree id (mentions_of_expression mentioned)
  unfold evaluateText
  dsimp only
  rw [resolve_congr store inner]

theorem valueOfText_congr (now : Calendar.Instant) (store : DocumentStore) {raw : String}
    (agree : AgreeOn context context' raw.toList) :
    valueOfText now store context raw = valueOfText now store context' raw := by
  rw [valueOfText, evaluateText_congr now store agree]
  rfl

end Formulary.Template
