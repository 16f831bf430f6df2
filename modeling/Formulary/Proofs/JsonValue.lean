import Formulary.Proofs.Document
import Formulary.Proofs.Exact

/-!
# JSON values as expressions

A value without doubles and without integers beyond the limit of whole numbers comes out of the
evaluation of its text as it went in (`eval_value`), so a reference to a document has the value of
the document (`evaluate_document`).
-/

namespace Formulary

/-! ## Members in order -/

/-- The keys stand in their order, each once. -/
def Members.Ordered (members : Members) : Prop := members.Pairwise fun m m' => m.1 < m'.1

theorem Members.insert_last {key : String} (value : Json) {members : Members}
    (last : ∀ m ∈ members, m.1 < key) :
    members.insert key value = members ++ [(key, value)] := by
  induction members with
  | nil => rfl
  | cons m members ih =>
    have before : m.1 < key := last m List.mem_cons_self
    have other : key ≠ m.1 := by
      rintro rfl
      exact String.lt_irrefl _ before
    rw [Members.insert, if_neg other, if_neg (String.lt_asymm before),
      ih fun m among => last m (List.mem_cons_of_mem _ among)]
    rfl

/-- Members in order are kept as they are written. -/
theorem Members.ofWritten_ordered {members : Members} (ordered : members.Ordered) :
    Members.ofWritten members = members := by
  have grown : ∀ {after before : Members}, Members.Ordered (before ++ after) →
      after.foldl (fun members m => members.insert m.1 m.2) before = before ++ after := by
    intro after
    induction after with
    | nil =>
      intro before _
      exact (List.append_nil before).symm
    | cons m after ih =>
      intro before ordered
      obtain ⟨key, value⟩ := m
      have last : ∀ m ∈ before, m.1 < key := fun m among =>
        (List.pairwise_append.1 ordered).2.2 m among (key, value) List.mem_cons_self
      have shape : before ++ (key, value) :: after = before ++ [(key, value)] ++ after := by simp
      rw [shape] at ordered ⊢
      show after.foldl _ (Members.insert key value before) = _
      rw [Members.insert_last value last, ih ordered]
  exact grown ordered

/-! ## Values that survive -/

mutual

/-- No doubles, integers below the limit of whole numbers, and members in order, all through. -/
def Json.Plain : Json → Prop
  | .null | .bool _ | .string _ => True
  | .int n => n.natAbs < 9000000000000000
  | .float _ => False
  | .array items => PlainItems items
  | .object members => Members.Ordered members ∧ PlainMembers members

def Json.PlainItems : List Json → Prop
  | [] => True
  | v :: items => v.Plain ∧ PlainItems items

def Json.PlainMembers : List (String × Json) → Prop
  | [] => True
  | (_, v) :: members => v.Plain ∧ PlainMembers members

end

theorem Json.plain_ofStrings (texts : List String) : (Json.ofStrings texts).Plain := by
  induction texts with
  | nil => exact trivial
  | cons s texts ih => exact ⟨trivial, ih⟩

namespace Script

open Binary64 Decimal

/-- An integer is read from its text as it was. -/
theorem eval_int (now : Calendar.Instant) {n : Int} (small : n.natAbs < 9000000000000000) :
    (numberTree (Json.intText n)).eval now = pure (.int n) := by
  cases n with
  | ofNat n =>
    obtain ⟨x, read, whole⟩ := ofText?_digits (n := n) (by simp at small; omega)
    have tree := (numberTokens_numeral (isNumeral_digits (isDigits_digits n))).2
    unfold Json.intText
    rw [tree, read, Option.getD_some, ofNumber_whole whole small]
    rfl
  | negSucc n =>
    have small : n + 1 < 9000000000000000 := small
    obtain ⟨x, read, whole⟩ := ofText?_digits (n := n + 1) (by omega)
    have negated := ofNumber_whole (whole_ofInt (n := n + 1) (by omega)).neg small
    have tree : numberTree (Json.intText (.negSucc n)) =
        .unary .negate (.literal (.int (n + 1 : Nat))) := by
      have literal : Json.ofNumber x = .int (n + 1 : Nat) := ofNumber_whole whole small
      show Expr.unary .negate
        (.literal (.ofNumber ((Binary64.ofText? (digits (n + 1))).getD .nan))) = _
      rw [read, Option.getD_some, literal]
    rw [tree, Expr.eval, Expr.eval, pure_bind]
    show pure (Json.ofNumber (ofInt (n + 1 : Nat)).neg) = _
    rw [negated]
    rfl

mutual

/-- **The tree of a value has the value.** -/
theorem eval_value (now : Calendar.Instant) : ∀ {v : Json}, v.Plain →
    (valueTree v).eval now = pure v
  | .null, _ => by rfl
  | .bool _, _ => by rfl
  | .int n, plain => by
    exact eval_int now plain
  | .string _, _ => by rfl
  | .float _, plain => by
    exact absurd plain id
  | .array items, plain => by
    show (Expr.array (itemTrees items)).eval now = _
    rw [Expr.eval, eval_items now plain, pure_bind]
  | .object members, plain => by
    show (Expr.object (memberTrees members)).eval now = _
    rw [Expr.eval, eval_members now plain.2, pure_bind, Json.ofMembers,
      Members.ofWritten_ordered plain.1]

theorem eval_items (now : Calendar.Instant) : ∀ {items : List Json}, Json.PlainItems items →
    evalItems now (itemTrees items) = pure items
  | [], _ => rfl
  | v :: items, plain => by
    show evalItems now (valueTree v :: itemTrees items) = _
    rw [evalItems, eval_value now plain.1, pure_bind, eval_items now plain.2, pure_bind]

theorem eval_members (now : Calendar.Instant) : ∀ {members : List (String × Json)},
    Json.PlainMembers members → evalEntries now (memberTrees members) = pure members
  | [], _ => rfl
  | (k, v) :: members, plain => by
    show evalEntries now ((k, valueTree v) :: memberTrees members) = _
    rw [evalEntries, eval_value now plain.1, pure_bind, eval_members now plain.2, pure_bind]

end

/-- **A text with the tokens of a value evaluates to the value.** -/
theorem evaluate_of_tokens (now : Calendar.Instant) {v : Json} (plain : v.Plain) {s : List Char}
    (tokens : tokens? s = some (valueTokens v)) : evaluate now s = .ok v := by
  unfold evaluate
  rw [parse_of_tokens tokens]
  show (valueTree v).value now = _
  unfold Expr.value
  rw [eval_value now plain]
  rfl

end Script

namespace Template

open Script

/-! ## References to documents -/

/-- The text is one reference to a document, with blanks around it at most. -/
structure RefersToDocument (s path : List Char) : Prop where
  one : names (documentCuts s) = [path]
  blank : ∀ t, .text t ∈ documentCuts s → ∀ c ∈ t, isGap c = true

theorem tokens?_gaps {t : List Char} (gaps : ∀ c ∈ t, isGap c = true) : tokens? t = some [] := by
  induction t with
  | nil => exact tokens?_nil
  | cons c t ih =>
    rw [tokens?_gap (gaps c List.mem_cons_self)]
    exact ih fun c among => gaps c (List.mem_cons_of_mem _ among)

theorem fieldCutsFrom_plain {text t : List Char} (plain : ∀ c ∈ t, c ≠ '$') :
    fieldCutsFrom text t = Cut.flush (t.reverse ++ text) [] := by
  fun_induction fieldCutsFrom text t with
  | case1 text t name rest found shorter ih =>
    obtain ⟨rfl, -⟩ := fieldAt?_eq_some_iff.1 found
    exact absurd rfl (plain '$' List.mem_cons_self)
  | case2 text => rfl
  | case3 text c t none ih =>
    rw [ih fun c among => plain c (List.mem_cons_of_mem _ among)]
    simp

/-- Blanks have no references and no tokens. -/
theorem fieldCuts_gaps {t : List Char} (gaps : ∀ c ∈ t, isGap c = true) (context : Context) :
    Fragmented (fieldCuts t) ∧ (fieldCuts t).flatMap (cutTokens context) = [] := by
  have plain : ∀ c ∈ t, c ≠ '$' := by
    rintro c among rfl
    cases gaps _ among
  have each : ∀ cut ∈ fieldCuts t, cut = .text t := by
    intro cut among
    unfold fieldCuts at among
    rw [fieldCutsFrom_plain plain, List.append_nil] at among
    rcases mem_flush among with rfl | absurd
    · rw [List.reverse_reverse]
    · cases absurd
  refine ⟨fun s among => ?_, List.flatMap_eq_nil_iff.2 fun cut among => ?_⟩
  · cases each _ among
    rw [tokens?_gaps gaps]
    rfl
  · rw [each cut among, cutTokens, tokens?_gaps gaps]
    rfl

theorem flatMap_of_texts_nil {α : Type} {f : Cut → List α} {cuts : List Cut}
    (texts : ∀ t, .text t ∈ cuts → f (.text t) = []) :
    cuts.flatMap f = (names cuts).flatMap fun path => f (.reference path) := by
  induction cuts with
  | nil => rfl
  | cons cut cuts ih =>
    have others := ih fun t among => texts t (List.mem_cons_of_mem _ among)
    cases cut with
    | text t => rw [List.flatMap_cons, texts t List.mem_cons_self, others]; rfl
    | reference path => rw [List.flatMap_cons, others]; rfl

theorem tokens?_document {store : DocumentStore} {context : Context} {s path : List Char} {v : Json}
    (refers : RefersToDocument s path)
    (document : DocumentAt store (spliceFields context path) v) :
    tokens? (answer (resolve store context s)) = some (valueTokens v) := by
  have blank t (among : .text t ∈ documentCuts s) := fieldCuts_gaps (refers.blank t among) context
  have documents : ∀ path' ∈ names (documentCuts s),
      DocumentAt store (spliceFields context path') ((fun _ => v) path') := by
    intro path' among
    rw [refers.one, List.mem_singleton] at among
    rw [among]
    exact document
  have tokens := tokens?_resolve (fun t among => (blank t among).1) documents
  rw [flatMap_of_texts_nil fun t among => (blank t among).2, refers.one,
    List.flatMap_singleton] at tokens
  exact tokens

/-- **Documents survive being spliced as text.** The compact text of a value evaluates to the
value, so a reference to a note evaluates to its front matter, and one to a folder to its names. -/
theorem evaluate_document (now : Calendar.Instant) :
    (∀ v : Json, v.Plain → Script.evaluate now v.chars = .ok v) ∧
    ∀ store context s path, RefersToDocument s path →
      (∀ members, DocumentAt store (spliceFields context path) (.object members) →
        (Json.object members).Plain →
        Script.evaluate now (answer (resolve store context s)) = .ok (.object members)) ∧
      ∀ names, DocumentAt store (spliceFields context path) (.ofStrings names) →
        Script.evaluate now (answer (resolve store context s)) = .ok (.ofStrings names) := by
  refine ⟨fun v plain => ?_, fun store context s path refers => ⟨?_, ?_⟩⟩
  · exact evaluate_of_tokens now plain (lexes_value v).tokens?
  · intro members document plain
    exact evaluate_of_tokens now plain (tokens?_document refers document)
  · intro names document
    exact evaluate_of_tokens now (Json.plain_ofStrings names) (tokens?_document refers document)

/-- The front matter of a note about a trip. -/
def tripMembers : Members :=
  [("budget", .int (-250)), ("cities", .array [.string "Lisbon", .string "say \"olá\"", .array []]),
    ("done", .bool false), ("guide", .null), ("seats", .object [("left", .int 0)])]

/-- A store with one note and one folder. -/
def tripStore : DocumentStore where
  findNote path := if path = "trip.md" then some "trip" else none
  readNote _ := .ok tripMembers
  listFolder path := if path = "photos/" then some ["one.png", "two.png"] else none

theorem evaluate_document_trip :
    RefersToDocument "%%trip%%".toList "trip".toList ∧
    RefersToDocument " %%photos/%% ".toList "photos/".toList ∧
    (Json.object tripMembers).Plain ∧
    ∀ now context,
      Script.evaluate now (Json.int (-250)).chars = .ok (.int (-250)) ∧
      Script.evaluate now (answer (resolve tripStore context "%%trip%%".toList)) =
        .ok (.object tripMembers) ∧
      Script.evaluate now (answer (resolve tripStore context " %%photos/%% ".toList)) =
        .ok (.ofStrings ["one.png", "two.png"]) := by
  have trip : documentCuts "%%trip%%".toList = [.reference "trip".toList] := by decide +kernel
  have photos : documentCuts " %%photos/%% ".toList =
      [.text [' '], .reference "photos/".toList, .text [' ']] := by
    decide +kernel
  have refersTrip : RefersToDocument "%%trip%%".toList "trip".toList := by
    refine ⟨by rw [trip]; rfl, fun t among => ?_⟩
    rw [trip] at among
    cases List.mem_singleton.1 among
  have refersPhotos : RefersToDocument " %%photos/%% ".toList "photos/".toList := by
    refine ⟨by rw [photos]; rfl, fun t among => ?_⟩
    rw [photos] at among
    obtain rfl : t = [' '] := by simpa using among
    simp [isGap]
  have plain : (Json.object tripMembers).Plain := by
    refine ⟨?_, ?_⟩
    · unfold Members.Ordered
      decide +kernel
    · simp [tripMembers, Json.PlainMembers, Json.PlainItems, Json.Plain, Members.Ordered]
  refine ⟨refersTrip, refersPhotos, plain, fun now context => ⟨?_, ?_, ?_⟩⟩
  · exact (evaluate_document now).1 (.int (-250)) (by simp [Json.Plain])
  · have path : spliceFields context "trip".toList = "trip".toList := by
      have cuts : fieldCuts "trip".toList = [.text "trip".toList] := by decide +kernel
      unfold spliceFields
      rw [cuts]
      rfl
    refine ((evaluate_document now).2 tripStore context _ _ refersTrip).1 tripMembers ?_ plain
    rw [path]
    exact .note (by decide) rfl rfl rfl
  · have path : spliceFields context "photos/".toList = "photos/".toList := by
      have cuts : fieldCuts "photos/".toList = [.text "photos/".toList] := by decide +kernel
      unfold spliceFields
      rw [cuts]
      rfl
    refine ((evaluate_document now).2 tripStore context _ _ refersPhotos).2 _ ?_
    rw [path]
    exact .folder (by decide) rfl

end Template

end Formulary
