import Formulary.Proofs.JsonValue

/-!
# Checked expressions parse later

An expression is checked with `[]` for its documents and empty texts for its fields. What is checked
and what is resolved later are cut at the same places (`substituteFields_blank`), and differ in
strings and in what stands for `[]` alone, so the one parses if the other does
(`parse_resolve_of_checked`).
-/

namespace Formulary.Template

open Script

/-! ## What is written, from the front -/

theorem quoteFields_reference (context : Context) {s name rest : List Char}
    (found : fieldAt? s = some (name, rest)) :
    quoteFields context s = Json.quoted (fieldValue context name) ++ quoteFields context rest := by
  rw [quoteFields_eq, quoteFields_eq]
  exact cutter_fields.written_reference _ found

theorem quoteFields_cons (context : Context) {c : Char} {s : List Char}
    (none : fieldAt? (c :: s) = none) :
    quoteFields context (c :: s) = c :: quoteFields context s := by
  rw [quoteFields_eq, quoteFields_eq]
  exact cutter_fields.written_cons _ none

theorem blankDocuments_eq (replacement s : List Char) :
    blankDocuments replacement s =
      (documentCuts s).flatMap (Cut.write id fun _ => replacement) := by
  unfold blankDocuments
  refine congrArg (documentCuts s).flatMap (funext fun cut => ?_)
  cases cut <;> rfl

theorem blankDocuments_nil (replacement : List Char) : blankDocuments replacement [] = [] := by
  rw [blankDocuments_eq]
  exact cutter_documents.written_nil _

theorem blankDocuments_reference (replacement : List Char) {s path rest : List Char}
    (found : documentAt? s = some (path, rest)) :
    blankDocuments replacement s = replacement ++ blankDocuments replacement rest := by
  rw [blankDocuments_eq, blankDocuments_eq]
  exact cutter_documents.written_reference _ found

theorem blankDocuments_cons (replacement : List Char) {c : Char} {s : List Char}
    (none : documentAt? (c :: s) = none) :
    blankDocuments replacement (c :: s) = c :: blankDocuments replacement s := by
  rw [blankDocuments_eq, blankDocuments_eq]
  exact cutter_documents.written_cons _ none

/-! ## Fields in front of more text -/

theorem fieldAt?_eq_none {s : List Char} (other : ∀ t, s ≠ '$' :: '$' :: '.' :: t) :
    fieldAt? s = none := by
  unfold fieldAt?
  split
  · exact absurd rfl (other _)
  · rfl

/-- Whatever stands in front of `r`, no reference runs from there into it. -/
structure Apart (r : List Char) : Prop where
  stops : ∀ c ∈ r.head?, isFieldChar c = false
  dot : ∀ t, r ≠ '.' :: t
  mark : ∀ t, r ≠ '$' :: '.' :: t

theorem apart_nil : Apart [] where
  stops c first := by cases first
  dot t shape := by cases shape
  mark t shape := by cases shape

/-- A character that stands in no reference keeps apart all that follows it. -/
theorem apart_cons {c : Char} (outside : isFieldChar c = false) (notDot : c ≠ '.')
    (notMark : c ≠ '$') (r : List Char) : Apart (c :: r) where
  stops d first := by
    cases first
    exact outside
  dot t shape := notDot (List.cons.inj shape).1
  mark t shape := notMark (List.cons.inj shape).1

theorem apart_bracket (r : List Char) : Apart ('[' :: r) :=
  apart_cons (by decide) (by decide) (by decide) r

theorem apart_sign (r : List Char) : Apart ('%' :: r) :=
  apart_cons (by decide) (by decide) (by decide) r

theorem apart_reference (r : List Char) : Apart ('$' :: '$' :: '.' :: r) where
  stops c first := by
    cases first
    rfl
  dot t shape := by cases shape
  mark t shape := by cases shape

/-- A reference is found in front of such a text as it is found alone. -/
theorem Apart.fieldAt? {r : List Char} (apart : Apart r) (c : Char) (s : List Char) :
    Template.fieldAt? (c :: (s ++ r)) =
      (Template.fieldAt? (c :: s)).map fun found => (found.1, found.2 ++ r) := by
  by_cases mark : ∃ t, c :: s = '$' :: '$' :: '.' :: t
  · obtain ⟨t, shape⟩ := mark
    cases shape
    obtain ⟨taken, dropped⟩ := takeWhile_append_of_stops apart.stops t
    show Template.fieldAt? ('$' :: '$' :: '.' :: (t ++ r)) = _
    rw [Template.fieldAt?, Template.fieldAt?, taken, dropped]
    split <;> rfl
  · have other : ∀ t, c :: s ≠ '$' :: '$' :: '.' :: t := fun t same => mark ⟨t, same⟩
    rw [fieldAt?_eq_none other]
    refine fieldAt?_eq_none fun t shape => ?_
    -- a mark that starts before `r` is complete before `r`
    rcases s with _ | ⟨d, _ | ⟨e, s⟩⟩
    · obtain ⟨-, second⟩ := List.cons.inj shape
      exact apart.mark t second
    · obtain ⟨-, second⟩ := List.cons.inj shape
      exact apart.dot t (List.cons.inj second).2
    · cases shape
      exact other s rfl

theorem Apart.fieldAt?_of_some {r s name rest : List Char} (apart : Apart r)
    (found : Template.fieldAt? s = some (name, rest)) :
    Template.fieldAt? (s ++ r) = some (name, rest ++ r) := by
  cases s with
  | nil => cases found
  | cons c s =>
    rw [List.cons_append, apart.fieldAt?, found]
    rfl

theorem Apart.fieldAt?_of_none {r s : List Char} {c : Char} (apart : Apart r)
    (none : Template.fieldAt? (c :: s) = none) :
    Template.fieldAt? (c :: (s ++ r)) = .none := by
  rw [apart.fieldAt?, none]
  rfl

/-- The fields in front of such a text are quoted as if it were the end. -/
theorem Apart.quoteFields {r : List Char} (apart : Apart r) (context : Context) (s : List Char) :
    Template.quoteFields context (s ++ r) =
      Template.quoteFields context s ++ Template.quoteFields context r := by
  refine cutter_fields.induction (p := fun s => Template.quoteFields context (s ++ r) =
    Template.quoteFields context s ++ Template.quoteFields context r) ?_ ?_ ?_ s
  · rw [quoteFields_nil]
    rfl
  · intro s name rest found ih
    rw [quoteFields_reference context found,
      quoteFields_reference context (apart.fieldAt?_of_some found), ih, List.append_assoc]
  · intro c s none ih
    rw [List.cons_append, quoteFields_cons context none,
      quoteFields_cons context (apart.fieldAt?_of_none none), ih, List.cons_append]

/-- What is written in place of a document when an expression is checked. -/
theorem quoteFields_blank (context : Context) (s r : List Char) :
    quoteFields context (s ++ ('[' :: ']' :: r)) =
      quoteFields context s ++ ('[' :: ']' :: quoteFields context r) := by
  rw [(apart_bracket _).quoteFields,
    quoteFields_cons context (fieldAt?_eq_none_of_ne _ (by decide)),
    quoteFields_cons context (fieldAt?_eq_none_of_ne r (by decide))]

theorem Spaced.quoteFields_blank {cuts : List Cut} (spaced : Spaced cuts) (context : Context) :
    quoteFields context (cuts.flatMap (Cut.write id fun _ => ['[', ']'])) =
      cuts.flatMap (Cut.write (quoteFields context) fun _ => ['[', ']']) := by
  induction spaced with
  | nil => exact quoteFields_nil context
  | last s => simp [Cut.write]
  | reference name others ih =>
    rename_i cuts
    have front := Template.quoteFields_blank context []
      (cuts.flatMap (Cut.write id fun _ => ['[', ']']))
    rw [ih, quoteFields_nil] at front
    exact front
  | text s name others ih =>
    rename_i cuts
    have front := Template.quoteFields_blank context s
      (cuts.flatMap (Cut.write id fun _ => ['[', ']']))
    rw [ih] at front
    exact front

/-! ## No document is left -/

variable {s : List Char} {c : Char}

/-- A sign at the front of the blanked text stood at the front before. -/
theorem blank_sign {w : List Char} (front : blankDocuments ['[', ']'] s = '%' :: w) :
    documentAt? s = none ∧ ∃ s', s = '%' :: s' ∧ w = blankDocuments ['[', ']'] s' := by
  cases found : documentAt? s with
  | some document =>
    obtain ⟨path, rest⟩ := document
    rw [blankDocuments_reference _ found] at front
    cases front
  | none =>
    cases s with
    | nil =>
      rw [blankDocuments_nil] at front
      cases front
    | cons c s =>
      rw [blankDocuments_cons _ found] at front
      cases front
      exact ⟨rfl, s, rfl, rfl⟩

/-- A sign that nothing closes on its line is not closed in the blanked text. -/
theorem closingSign?_blank : closingSign? s = none →
    closingSign? (blankDocuments ['[', ']'] s) = none := by
  refine cutter_documents.induction (p := fun s => closingSign? s = none →
    closingSign? (blankDocuments ['[', ']'] s) = none) ?_ ?_ ?_ s
  · intro _
    rw [blankDocuments_nil]
    rfl
  · intro s path rest found _ unclosed
    obtain rfl := documentAt?_eq_some found
    cases unclosed
  · intro c s none ih unclosed
    rw [blankDocuments_cons _ none]
    by_cases lineEnd : c = '\n'
    · rw [lineEnd]
      rfl
    · have apart : ∀ s', c = '%' → s = '%' :: s' → False := by
        rintro s' rfl rfl
        cases unclosed
      have apartBlank : ∀ w, c = '%' → blankDocuments ['[', ']'] s = '%' :: w → False := by
        intro w sign front
        obtain ⟨-, s', shape, -⟩ := blank_sign front
        exact apart s' sign shape
      rw [closingSign?.eq_3 c s apart lineEnd, Option.map_eq_none_iff] at unclosed
      rw [closingSign?.eq_3 c _ apartBlank lineEnd, ih unclosed]
      rfl

theorem documentAt?_blank (none : documentAt? (c :: s) = none) :
    documentAt? (c :: blankDocuments ['[', ']'] s) = .none := by
  unfold documentAt?
  split
  · rename_i w shape
    obtain ⟨rfl, second⟩ := List.cons.inj shape
    obtain ⟨-, s', rfl, rfl⟩ := blank_sign second
    exact closingSign?_blank none
  · rfl

/-- **A blanked text has no document.** -/
theorem names_documentCuts_blank (s : List Char) :
    names (documentCuts (blankDocuments ['[', ']'] s)) = [] := by
  refine cutter_documents.induction (p := fun s => ∀ text,
    names (documentCutsFrom text (blankDocuments ['[', ']'] s)) = []) ?_ ?_ ?_ s []
  · intro text
    rw [blankDocuments_nil, cutter_documents.nil, names_flush]
    rfl
  · intro s path rest found ih text
    rw [blankDocuments_reference _ found]
    show names (documentCutsFrom text ('[' :: ']' :: _)) = []
    rw [cutter_documents.cons _ rfl, cutter_documents.cons _ rfl]
    exact ih _
  · intro c s none ih text
    rw [blankDocuments_cons _ none, cutter_documents.cons _ (documentAt?_blank none)]
    exact ih _

/-! ## The checked text and the resolved one -/

theorem substituteFields_plain (context : Context) {s : List Char}
    (none : names (documentCuts s) = []) : substituteFields context s = quoteFields context s := by
  unfold substituteFields
  exact flatMap_documentCuts_plain none (quoteFields_nil context)

/-- **The text that is checked**, cut where the expression is. -/
theorem substituteFields_blank (context : Context) (s : List Char) :
    substituteFields context (blankDocuments ['[', ']'] s) =
      (documentCuts s).flatMap (Cut.write (quoteFields context) fun _ => ['[', ']']) := by
  rw [substituteFields_plain context (names_documentCuts_blank s), blankDocuments_eq]
  exact (cutter_documents.spaced s).quoteFields_blank context

/-- The tokens of a piece of a checked expression. -/
def blankTokens (context : Context) : Cut → List Token
  | .text s => (fieldCuts s).flatMap (cutTokens context)
  | .reference _ => [.openBracket, .closeBracket]

theorem tokens?_checked (context : Context) {s : List Char}
    (fragments : ∀ t, .text t ∈ documentCuts s → Fragmented (fieldCuts t)) :
    tokens? (substituteFields context (blankDocuments ['[', ']'] s)) =
      some ((documentCuts s).flatMap (blankTokens context)) := by
  rw [substituteFields_blank]
  refine ((cutter_documents.spaced s).lexes (fun t among => ?_) (fun path among => ?_)).tokens?
  · exact lexes_quoteFields context (fragments t among)
  · exact (cuts_openBracket.append cuts_closeBracket).stands (by decide)

/-- The checked text and the resolved one differ in strings and in what stands for `[]`. -/
theorem tokensAlike_checked (context context' : Context) {value : List Char → Json}
    {cuts : List Cut} (compound : ∀ path, .reference path ∈ cuts →
      (value path).isCompound = true) :
    TokensAlike (fun _ _ => True) (fun _ => True) (cuts.flatMap (blankTokens context))
      (cuts.flatMap (pieceTokens context' value)) := by
  induction cuts with
  | nil => exact .nil
  | cons cut cuts ih =>
    have others := ih fun path among => compound path (List.mem_cons_of_mem _ among)
    rw [List.flatMap_cons, List.flatMap_cons]
    cases cut with
    | text s =>
      have fields : TokensAlike (fun _ _ => True) (fun _ => True) (blankTokens context (.text s))
          (pieceTokens context' value (.text s)) :=
        tokensAlike_cutTokens context context' fun _ _ => trivial
      exact fields.append others
    | reference path =>
      obtain ⟨t, inside, shape, opens, reads⟩ := reads_compound (compound path List.mem_cons_self)
      rw [pieceTokens, shape]
      exact .document opens reads trivial others

theorem checkSyntax_eq_ok_iff {s : List Char} :
    checkSyntax s = .ok () ↔ ∃ e, parse s = .ok e := by
  unfold checkSyntax
  cases parse s with
  | error fault =>
    constructor
    · intro absurd
      cases absurd
    · rintro ⟨e, absurd⟩
      cases absurd
  | ok e => exact ⟨fun _ => ⟨e, rfl⟩, fun _ => rfl⟩

/-- The check fails as the parser does. -/
theorem checkSyntax_eq_error_iff {s : List Char} {fault : Error} :
    checkSyntax s = .error fault ↔ parse s = .error fault := by
  unfold checkSyntax
  cases parse s with
  | error other => exact ⟨fun same => congrArg _ (Except.error.inj same),
      fun same => congrArg _ (Except.error.inj same)⟩
  | ok e =>
    constructor
    · intro absurd
      cases absurd
    · intro absurd
      cases absurd

/-- **What the check accepts never fails to parse later.** -/
theorem parse_resolve_of_checked {s : List Char}
    (fragments : ∀ t, .text t ∈ documentCuts s → Fragmented (fieldCuts t))
    (checked : checkSyntax (substituteFields (fun _ => none) (blankDocuments ['[', ']'] s)) =
      .ok ())
    (store : DocumentStore) (context : Context)
    (documents : ∀ path ∈ names (documentCuts s),
      ∃ v, DocumentAt store (spliceFields context path) v) :
    ∃ e, parse (answer (resolve store context s)) = .ok e := by
  choose! value documents using documents
  obtain ⟨e, parsed⟩ := checkSyntax_eq_ok_iff.1 checked
  obtain ⟨e', parsed', -⟩ := parse_alike (tokens?_checked _ fragments)
    (tokens?_resolve fragments documents)
    (tokensAlike_checked _ context fun path among =>
      (documents path (mem_names.2 among)).compound) parsed
  exact ⟨e', parsed'⟩

theorem parse_resolve_of_checked_trip :
    (∀ t, .text t ∈ documentCuts "%%$$.note%%[$$.city]".toList → Fragmented (fieldCuts t)) ∧
    checkSyntax (substituteFields (fun _ => none)
      (blankDocuments ['[', ']'] "%%$$.note%%[$$.city]".toList)) = .ok () ∧
    ∀ city, ∃ e, parse (answer (resolve tripStore
      (fun id => if id = "note" then some "trip" else city) "%%$$.note%%[$$.city]".toList)) =
        .ok e := by
  have cuts : documentCuts "%%$$.note%%[$$.city]".toList =
      [.reference "$$.note".toList, .text "[$$.city]".toList] := by
    decide +kernel
  have fields : fieldCuts "[$$.city]".toList =
      [.text ['['], .reference "city".toList, .text [']']] := by
    decide +kernel
  have fragments : ∀ t, .text t ∈ documentCuts "%%$$.note%%[$$.city]".toList →
      Fragmented (fieldCuts t) := by
    intro t among u within
    rw [cuts] at among
    obtain rfl : t = "[$$.city]".toList := by simpa using among
    rw [fields] at within
    have either : u = ['['] ∨ u = [']'] := by simpa using within
    rcases either with rfl | rfl
    · decide +kernel
    · decide +kernel
  have checked : checkSyntax (substituteFields (fun _ => none)
      (blankDocuments ['[', ']'] "%%$$.note%%[$$.city]".toList)) = .ok () := by
    have closes : Closes [] := fun t first => by cases first
    have key : ReadsExpression [.string [], .closeBracket] (.literal (.string ""))
        [.closeBracket] :=
      reads_primary rfl .string (closes_cons (by simp) [])
    have whole := reads_closed rfl
      (.operand rfl (.array .done) (.index key (closes.accesses _))) closes
    exact checkSyntax_eq_ok_iff.2 ⟨_, parse_eq_ok_iff.2 ⟨_, by decide +kernel, whole⟩⟩
  refine ⟨fragments, checked, fun city => ?_⟩
  refine parse_resolve_of_checked fragments checked tripStore _ fun path among => ?_
  rw [cuts] at among
  obtain rfl : path = "$$.note".toList := by simpa [names] using among
  have reference : fieldCuts "$$.note".toList = [.reference "note".toList] := by decide +kernel
  have value : spliceFields (fun id => if id = "note" then some "trip" else city)
      "$$.note".toList = "trip".toList := by
    unfold spliceFields
    rw [reference, List.flatMap_singleton]
    dsimp only [fieldValue]
    rw [String.ofList_toList, if_pos rfl]
    rfl
  refine ⟨.object tripMembers, ?_⟩
  rw [value]
  exact .note (by decide) rfl rfl rfl

end Formulary.Template
