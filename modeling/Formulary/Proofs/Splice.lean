import Formulary.Proofs.Likeness
import Formulary.Proofs.Quoted

/-!
# Field values in an expression

A field reference becomes a quoted text. That is one string to the lexer whatever stands around it,
so the values of the fields do not decide how an expression is cut into tokens, nor whether it
parses (`resolve_fields_stable`).

* `Spaced.lexes`: a text that is put together from plain stretches and spliced ones is cut into
  tokens piece by piece.
* `lexes_quoteFields`: this for the fields of an expression.
-/

namespace Formulary.Script

/-- **A quoted text is one string, whatever follows it.** -/
theorem cuts_quoted (s : List Char) : Cuts (Json.quoted s) [.string s] := by
  intro more
  obtain ⟨_, read⟩ := lexString_escaped
    ((s.flatMap Json.escape ++ '"' :: more).length + 1) s more
  have reads : ReadsToken '"' (s.flatMap Json.escape ++ '"' :: more) (.string s) more :=
    .string (Or.inl rfl) read
  have shape : Json.quoted s ++ more = '"' :: (s.flatMap Json.escape ++ '"' :: more) := by
    simp [Json.quoted]
  rw [shape, tokens?_token (by decide) reads]
  rfl

theorem stands_quoted (s : List Char) : Stands (Json.quoted s) [.string s] :=
  (cuts_quoted s).stands (by decide)

end Formulary.Script

namespace Formulary.Template

open Script

/-! ## Texts in pieces -/

/-- What is written for a plain stretch, and for a reference. -/
def Cut.write (text reference : List Char → List Char) : Cut → List Char
  | .text s => text s
  | .reference name => reference name

/-- No plain stretch follows a plain stretch. -/
inductive Spaced : List Cut → Prop
  | nil : Spaced []
  | last (s : List Char) : Spaced [.text s]
  | reference (name : List Char) {cuts : List Cut} (others : Spaced cuts) :
    Spaced (.reference name :: cuts)
  | text (s name : List Char) {cuts : List Cut} (others : Spaced cuts) :
    Spaced (.text s :: .reference name :: cuts)

theorem spaced_flush_nil (text : List Char) : Spaced (Cut.flush text []) := by
  unfold Cut.flush
  split
  · exact .nil
  · exact .last _

theorem Spaced.flush {cuts : List Cut} (spaced : Spaced cuts) (text name : List Char) :
    Spaced (Cut.flush text (.reference name :: cuts)) := by
  unfold Cut.flush
  split
  · exact .reference name spaced
  · exact .text _ name spaced

/-- **A text in pieces is cut into tokens piece by piece.** -/
theorem Spaced.lexes {cuts : List Cut} (spaced : Spaced cuts)
    {text reference : List Char → List Char} {tokens : Cut → List Token}
    (texts : ∀ s, .text s ∈ cuts → Lexes (text s) (tokens (.text s)))
    (references : ∀ name, .reference name ∈ cuts →
      Stands (reference name) (tokens (.reference name))) :
    Lexes (cuts.flatMap (Cut.write text reference)) (cuts.flatMap tokens) := by
  induction spaced with
  | nil => exact cuts_nil.lexes
  | last s => simpa [Cut.write] using texts s (by simp)
  | reference name others ih =>
    have later := ih (fun s among => texts s (by simp [among]))
      (fun name among => references name (by simp [among]))
    exact (references name (by simp)).cuts.append_lexes later
  | text s name others ih =>
    have later := ih (fun s among => texts s (by simp [among]))
      (fun name among => references name (by simp [among]))
    have first := (texts s (by simp)).append_stands (references name (by simp))
    simpa [Cut.write] using first.append_lexes later

/-! ## Cutting at references -/

/-- `cutsFrom` cuts a text wherever `front?` finds a reference at the front of what is left; its
first argument is the plain stretch under way. -/
structure Cutter (front? : List Char → Option (List Char × List Char))
    (cutsFrom : List Char → List Char → List Cut) : Prop where
  shorter {s name rest : List Char} : front? s = some (name, rest) → rest.length < s.length
  nil (text : List Char) : cutsFrom text [] = Cut.flush text []
  reference (text : List Char) {s name rest : List Char} : front? s = some (name, rest) →
    cutsFrom text s = Cut.flush text (.reference name :: cutsFrom [] rest)
  cons (text : List Char) {c : Char} {s : List Char} : front? (c :: s) = none →
    cutsFrom text (c :: s) = cutsFrom (c :: text) s

theorem cutter_fields : Cutter fieldAt? fieldCutsFrom where
  shorter := fieldAt?_shorter
  nil text := by
    rw [fieldCutsFrom]
    rfl
  reference text s name rest found := by
    rw [fieldCutsFrom]
    split
    · rename_i found'
      cases found.symm.trans found'
      rfl
    · rename_i none
      cases found.symm.trans none
  cons text c s none := by
    rw [fieldCutsFrom]
    split
    · rename_i found
      cases none.symm.trans found
    · rfl

theorem cutter_documents : Cutter documentAt? documentCutsFrom where
  shorter := documentAt?_shorter
  nil text := by
    rw [documentCutsFrom]
    rfl
  reference text s path rest found := by
    rw [documentCutsFrom]
    split
    · rename_i found'
      cases found.symm.trans found'
      rfl
    · rename_i none
      cases found.symm.trans none
  cons text c s none := by
    rw [documentCutsFrom]
    split
    · rename_i found
      cases none.symm.trans found
    · rfl

theorem flatMap_flush (text : List Char) (cuts : List Cut) (reference : List Char → List Char) :
    (Cut.flush text cuts).flatMap (Cut.write id reference) =
      text.reverse ++ cuts.flatMap (Cut.write id reference) := by
  unfold Cut.flush
  split
  · rename_i empty
    rw [List.isEmpty_iff.1 empty]
    rfl
  · rfl

namespace Cutter

variable {front? : List Char → Option (List Char × List Char)}
variable {cutsFrom : List Char → List Char → List Cut} {s name rest : List Char} {c : Char}

/-- What goes over a text from reference to reference goes over all of it. -/
theorem induction (cutter : Cutter front? cutsFrom) {p : List Char → Prop} (nil : p [])
    (reference : ∀ {s name rest}, front? s = some (name, rest) → p rest → p s)
    (cons : ∀ {c s}, front? (c :: s) = none → p s → p (c :: s)) (s : List Char) : p s := by
  induction size : s.length using Nat.strong_induction_on generalizing s with
  | _ n ih =>
    subst size
    cases found : front? s with
    | some reference' => exact reference found (ih _ (cutter.shorter found) _ rfl)
    | none =>
      cases s with
      | nil => exact nil
      | cons c s => exact cons found (ih _ (Nat.lt_succ_self _) _ rfl)

theorem spaced (cutter : Cutter front? cutsFrom) (s : List Char) : Spaced (cutsFrom [] s) := by
  refine cutter.induction (p := fun s => ∀ text, Spaced (cutsFrom text s)) ?_ ?_ ?_ s []
  · intro text
    rw [cutter.nil]
    exact spaced_flush_nil text
  · intro s name rest found ih text
    rw [cutter.reference text found]
    exact (ih []).flush text name
  · intro c s none ih text
    rw [cutter.cons text none]
    exact ih (c :: text)

/-! What is written for the cuts, stretches as they are. -/

variable (write : List Char → List Char)

theorem written (cutter : Cutter front? cutsFrom) (text s : List Char) :
    (cutsFrom text s).flatMap (Cut.write id write) =
      text.reverse ++ (cutsFrom [] s).flatMap (Cut.write id write) := by
  refine cutter.induction (p := fun s => ∀ text, (cutsFrom text s).flatMap (Cut.write id write) =
    text.reverse ++ (cutsFrom [] s).flatMap (Cut.write id write)) ?_ ?_ ?_ s text
  · intro text
    rw [cutter.nil, cutter.nil, flatMap_flush]
    rfl
  · intro s name rest found _ text
    rw [cutter.reference text found, cutter.reference [] found, flatMap_flush, flatMap_flush]
    rfl
  · intro c s none ih text
    rw [cutter.cons text none, cutter.cons [] none, ih (c :: text), ih [c]]
    simp

theorem written_nil (cutter : Cutter front? cutsFrom) :
    (cutsFrom [] []).flatMap (Cut.write id write) = [] := by
  rw [cutter.nil]
  rfl

theorem written_reference (cutter : Cutter front? cutsFrom) (found : front? s = some (name, rest)) :
    (cutsFrom [] s).flatMap (Cut.write id write) =
      write name ++ (cutsFrom [] rest).flatMap (Cut.write id write) := by
  rw [cutter.reference [] found, flatMap_flush]
  rfl

theorem written_cons (cutter : Cutter front? cutsFrom) (none : front? (c :: s) = none) :
    (cutsFrom [] (c :: s)).flatMap (Cut.write id write) =
      c :: (cutsFrom [] s).flatMap (Cut.write id write) := by
  rw [cutter.cons [] none, cutter.written]
  rfl

/-- The cuts, put together again, are the text. -/
theorem written_self (cutter : Cutter front? cutsFrom)
    (whole : ∀ {s name rest}, front? s = some (name, rest) → write name ++ rest = s)
    (s : List Char) : (cutsFrom [] s).flatMap (Cut.write id write) = s := by
  refine cutter.induction (p := fun s => (cutsFrom [] s).flatMap (Cut.write id write) = s)
    ?_ ?_ ?_ s
  · exact cutter.written_nil write
  · intro s name rest found ih
    rw [cutter.written_reference write found, ih, whole found]
  · intro c s none ih
    rw [cutter.written_cons write none, ih]

end Cutter

/-! ## Fields -/

/-- The tokens of a plain stretch, or the one string of a reference. -/
def cutTokens (context : Context) : Cut → List Token
  | .text s => (tokens? s).getD []
  | .reference name => [.string (fieldValue context name)]

/-- Every plain stretch is cut into tokens on its own. -/
def Fragmented (cuts : List Cut) : Prop := ∀ s, .text s ∈ cuts → (tokens? s).isSome

theorem lexes_of_isSome {s : List Char} (cut : (tokens? s).isSome) :
    Lexes s ((tokens? s).getD []) := by
  obtain ⟨ts, found⟩ := Option.isSome_iff_exists.1 cut
  rw [found]
  exact lexes_of_tokens? found

theorem quoteFields_eq (context : Context) (s : List Char) :
    quoteFields context s =
      (fieldCuts s).flatMap (Cut.write id fun name => Json.quoted (fieldValue context name)) := by
  unfold quoteFields
  refine congrArg (fieldCuts s).flatMap (funext fun cut => ?_)
  cases cut <;> rfl

/-- **A text with its fields quoted has the tokens of its fragments**, and a string for each
field. -/
theorem lexes_quoteFields (context : Context) {s : List Char}
    (fragments : Fragmented (fieldCuts s)) :
    Lexes (quoteFields context s) ((fieldCuts s).flatMap (cutTokens context)) := by
  rw [quoteFields_eq]
  exact (cutter_fields.spaced s).lexes (fun s among => lexes_of_isSome (fragments s among))
    (fun name _ => stands_quoted (fieldValue context name))

/-! ## The resolved text -/

/-- What comes of two computations, one after the other. -/
theorem answer_bind {α β : Type} (m : ResolveM α) {f : α → ResolveM β}
    (later : Recording (f (answer m))) : answer (m >>= f) = answer (f (answer m)) := by
  show ((f (answer m)).run (m.run {}).2).1 = _
  rw [later]
  rfl

theorem answer_resolveCuts (store : DocumentStore) (context : Context) (cuts : List Cut) :
    answer (resolveCuts store context cuts) =
      cuts.flatMap (Cut.write (quoteFields context) fun path =>
        answer (documentContent store (spliceFields context path))) := by
  induction cuts with
  | nil => rfl
  | cons cut cuts ih =>
    rw [List.flatMap_cons, ← ih]
    cases cut with
    | text s => rfl
    | reference path =>
      refine answer_bind _ ?_
      exact (recording_resolveCuts store context cuts).bind fun _ => recording_pure _

/-! ## Expressions without documents -/

theorem Spaced.of_names_nil {cuts : List Cut} (spaced : Spaced cuts) (none : names cuts = []) :
    cuts = [] ∨ ∃ s, cuts = [.text s] := by
  cases spaced with
  | nil => exact Or.inl rfl
  | last s => exact Or.inr ⟨s, rfl⟩
  | reference name others => cases none
  | text s name others => cases none

/-- What is put together from the cuts of a text without documents comes from the whole text. -/
theorem flatMap_documentCuts_plain {s : List Char} (none : names (documentCuts s) = [])
    {f : Cut → List Char} (empty : f (.text []) = []) :
    (documentCuts s).flatMap f = f (.text s) := by
  have whole := cutter_documents.written_self (fun path => '%' :: '%' :: (path ++ ['%', '%']))
    (fun found => by simp [documentAt?_eq_some found]) s
  unfold documentCuts
  rcases (cutter_documents.spaced s).of_names_nil none with nothing | ⟨u, single⟩
  · rw [nothing] at whole ⊢
    obtain rfl : s = [] := whole.symm
    exact empty.symm
  · rw [single] at whole ⊢
    obtain rfl : u = s := by simpa [Cut.write] using whole
    exact List.flatMap_singleton f _

theorem quoteFields_nil (context : Context) : quoteFields context [] = [] := by
  rw [quoteFields_eq]
  exact cutter_fields.written_nil _

theorem resolve_eq_quoteFields (store : DocumentStore) (context : Context) {s : List Char}
    (none : names (documentCuts s) = []) :
    answer (resolve store context s) = quoteFields context s := by
  unfold resolve
  rw [answer_resolveCuts, flatMap_documentCuts_plain none (quoteFields_nil context)]
  rfl

/-- The values of one field in two contexts. -/
def ValuesOf (fields : List (List Char)) (context context' : Context) (v v' : List Char) : Prop :=
  ∃ name ∈ fields, v = fieldValue context name ∧ v' = fieldValue context' name

/-- The tokens of an expression with its fields in two contexts differ in the values alone. -/
theorem tokensAlike_cutTokens {texts : List Char → List Char → Prop} {documents : Expr → Prop}
    (context context' : Context) {cuts : List Cut} (related : ∀ name, .reference name ∈ cuts →
      texts (fieldValue context name) (fieldValue context' name)) :
    TokensAlike texts documents (cuts.flatMap (cutTokens context))
      (cuts.flatMap (cutTokens context')) := by
  induction cuts with
  | nil => exact .nil
  | cons cut cuts ih =>
    have others := ih fun name among => related name (List.mem_cons_of_mem _ among)
    rw [List.flatMap_cons, List.flatMap_cons]
    cases cut with
    | text s => exact (TokensAlike.refl _).append others
    | reference name => exact .text (related name List.mem_cons_self) others

theorem mem_names {name : List Char} {cuts : List Cut} :
    name ∈ names cuts ↔ .reference name ∈ cuts := by
  unfold names
  rw [List.mem_filterMap]
  constructor
  · rintro ⟨_ | _, among, same⟩
    · cases same
    · cases same
      exact among
  · intro among
    exact ⟨_, among, rfl⟩

/-- **Field values cannot change the syntax of an expression.** -/
theorem resolve_fields_stable (store : DocumentStore) {s : List Char}
    (none : names (documentCuts s) = []) (fragments : Fragmented (fieldCuts s)) :
    (∀ context, tokens? (answer (resolve store context s)) =
      some ((fieldCuts s).flatMap (cutTokens context))) ∧
    ∀ context context',
      ((∃ e, parse (answer (resolve store context s)) = .ok e) ↔
        ∃ e, parse (answer (resolve store context' s)) = .ok e) ∧
      ∀ e e', parse (answer (resolve store context s)) = .ok e →
        parse (answer (resolve store context' s)) = .ok e' →
        Expr.Alike (ValuesOf (names (fieldCuts s)) context context') (fun _ => False) e e' := by
  have cut (context : Context) : tokens? (answer (resolve store context s)) =
      some ((fieldCuts s).flatMap (cutTokens context)) := by
    rw [resolve_eq_quoteFields store context none]
    exact (lexes_quoteFields context fragments).tokens?
  have alike (context context' : Context) :
      TokensAlike (ValuesOf (names (fieldCuts s)) context context') (fun _ => False)
        ((fieldCuts s).flatMap (cutTokens context)) ((fieldCuts s).flatMap (cutTokens context')) :=
    tokensAlike_cutTokens context context' fun name among => ⟨name, mem_names.2 among, rfl, rfl⟩
  have carried (context context' : Context) {e : Expr}
      (parsed : parse (answer (resolve store context s)) = .ok e) :=
    parse_alike (cut context) (cut context') (alike context context') parsed
  refine ⟨cut, fun context context' => ⟨⟨?_, ?_⟩, ?_⟩⟩
  · rintro ⟨e, parsed⟩
    obtain ⟨e', parsed', -⟩ := carried context context' parsed
    exact ⟨e', parsed'⟩
  · rintro ⟨e, parsed⟩
    obtain ⟨e', parsed', -⟩ := carried context' context parsed
    exact ⟨e', parsed'⟩
  · intro e e' parsed parsed'
    obtain ⟨e'', parsed'', alike⟩ := carried context context' parsed
    obtain rfl : e' = e'' := Except.ok.inj (parsed'.symm.trans parsed'')
    exact alike

theorem resolve_fields_stable_product :
    names (documentCuts "$$.price * $$.tax".toList) = [] ∧
    Fragmented (fieldCuts "$$.price * $$.tax".toList) ∧
    ∀ store context, tokens? (answer (resolve store context "$$.price * $$.tax".toList)) =
      some [.string (fieldValue context "price".toList), .star,
        .string (fieldValue context "tax".toList)] := by
  have none : names (documentCuts "$$.price * $$.tax".toList) = [] := by decide +kernel
  have cuts : fieldCuts "$$.price * $$.tax".toList =
      [.reference "price".toList, .text " * ".toList, .reference "tax".toList] := by
    decide +kernel
  have star : tokens? " * ".toList = some [.star] := by decide +kernel
  have fragments : Fragmented (fieldCuts "$$.price * $$.tax".toList) := by
    intro s among
    rw [cuts] at among
    obtain rfl : s = " * ".toList := by simpa using among
    rw [star]
    rfl
  refine ⟨none, fragments, fun store context => ?_⟩
  rw [(resolve_fields_stable store none fragments).1 context, cuts]
  simp only [List.flatMap_cons, List.flatMap_nil, cutTokens, star]
  rfl

end Formulary.Template
