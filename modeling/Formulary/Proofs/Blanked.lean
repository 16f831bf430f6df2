import Formulary.Proofs.Checked

/-!
# What blanking leaves

Blanking puts `[]` in place of every document of a text. No field reference runs across a percent
sign or a bracket, so the field references of a text are those of its stretches and of the paths
between the signs, one after the other, and blanking takes away the ones in the paths
(`FieldsStay`). What is left of the percent signs makes no document: it stands on a line where
nothing closes it.

* `references_blankDocuments`: a blanked text has no document, and its field references are those
  that stood outside of all documents, moved by as much as was taken away in front of them.
-/

namespace Formulary.Template

/-! ## Bytes -/

theorem byteLength_cons (c : Char) (s : List Char) :
    byteLength (c :: s) = c.utf8Size + byteLength s := by
  unfold byteLength
  rw [List.map_cons, List.sum_cons]

theorem byteLength_append (s t : List Char) :
    byteLength (s ++ t) = byteLength s + byteLength t := by
  induction s with
  | nil => exact (Nat.zero_add _).symm
  | cons c s ih => rw [List.cons_append, byteLength_cons, byteLength_cons, ih, Nat.add_assoc]

theorem byteLength_reverse (s : List Char) : byteLength s.reverse = byteLength s := by
  induction s with
  | nil => rfl
  | cons c s ih =>
    rw [List.reverse_cons, byteLength_append, ih, byteLength_cons, byteLength_cons, Nat.add_comm]
    rfl

/-! ## Places -/

section

variable {around start : Nat}

theorem spans_flush (text : List Char) (cuts : List Cut) :
    spans around start (Cut.flush text cuts) = spans around (start + byteLength text) cuts := by
  unfold Cut.flush
  split
  · rename_i empty
    rw [List.isEmpty_iff.1 empty]
    rfl
  · rw [spans, byteLength_reverse]

/-- The places are those of the names, in order. -/
theorem map_fst_spans (around start : Nat) (cuts : List Cut) :
    (spans around start cuts).map Prod.fst = names cuts := by
  induction cuts generalizing start with
  | nil => rfl
  | cons cut cuts ih =>
    cases cut with
    | text s => exact ih _
    | reference name => exact congrArg (name :: ·) (ih _)

/-- No reference starts before the cuts do, and each has the bytes around its name. -/
theorem spans_bounds {cuts : List Cut} {r : List Char × Nat × Nat}
    (among : r ∈ spans around start cuts) : start ≤ r.2.1 ∧ r.2.1 + around ≤ r.2.2 := by
  induction cuts generalizing start with
  | nil => cases among
  | cons cut cuts ih =>
    cases cut with
    | text s =>
      have further : r ∈ spans around (start + byteLength s) cuts := among
      have later := ih further
      omega
    | reference name =>
      rcases List.mem_cons.1 among with rfl | among
      · dsimp only
        omega
      · have later := ih among
        omega

/-- The reference further on, or further back. -/
def forward (k : Nat) (r : List Char × Nat × Nat) : List Char × Nat × Nat :=
  (r.1, r.2.1 + k, r.2.2 + k)

def back (k : Nat) (r : List Char × Nat × Nat) : List Char × Nat × Nat :=
  (r.1, r.2.1 - k, r.2.2 - k)

theorem back_forward (k : Nat) (r : List Char × Nat × Nat) : back k (forward k r) = r := by
  unfold back forward
  rw [Nat.add_sub_cancel, Nat.add_sub_cancel]

theorem spans_add (k : Nat) (cuts : List Cut) :
    spans around (start + k) cuts = (spans around start cuts).map (forward k) := by
  induction cuts generalizing start with
  | nil => rfl
  | cons cut cuts ih =>
    cases cut with
    | text s =>
      rw [spans, spans, ← ih, Nat.add_right_comm]
    | reference name =>
      have shifted : start + k + around + byteLength name =
          start + around + byteLength name + k := by omega
      rw [spans, spans, List.map_cons, ← ih, shifted]
      rfl

/-- A stretch under way is passed over. -/
theorem Cutter.spans_text {front? : List Char → Option (List Char × List Char)}
    {cutsFrom : List Char → List Char → List Cut} (cutter : Cutter front? cutsFrom)
    (start : Nat) (text s : List Char) :
    spans around start (cutsFrom text s) =
      spans around (start + byteLength text) (cutsFrom [] s) := by
  refine cutter.induction (p := fun s => ∀ start text, spans around start (cutsFrom text s) =
    spans around (start + byteLength text) (cutsFrom [] s)) ?_ ?_ ?_ s start text
  · intro start text
    rw [cutter.nil, cutter.nil, spans_flush]
    rfl
  · intro s name rest found _ start text
    rw [cutter.reference text found, cutter.reference [] found, spans_flush, spans_flush]
    rfl
  · intro c s none ih start text
    rw [cutter.cons text none, cutter.cons [] none, ih start (c :: text), ih _ [c],
      byteLength_cons, byteLength_cons]
    congr 1
    show start + (c.utf8Size + byteLength text) = start + byteLength text + (c.utf8Size + 0)
    omega

end

/-! ## Fields from a place on -/

/-- The field references of a text that stands at a place, as places of the whole. -/
def fieldsFrom (start : Nat) (s : List Char) : List (List Char × Nat × Nat) :=
  spans 3 start (fieldCuts s)

section

variable {s name rest : List Char} {c : Char} (start : Nat)

theorem fieldsFrom_nil : fieldsFrom start [] = [] := by
  unfold fieldsFrom fieldCuts
  rw [cutter_fields.nil, spans_flush]
  rfl

theorem fieldsFrom_cons (none : fieldAt? (c :: s) = none) :
    fieldsFrom start (c :: s) = fieldsFrom (start + c.utf8Size) s := by
  unfold fieldsFrom fieldCuts
  rw [cutter_fields.cons [] none, cutter_fields.spans_text, byteLength_cons]
  rfl

theorem fieldsFrom_reference (found : fieldAt? s = some (name, rest)) :
    fieldsFrom start s = (name, start, start + 3 + byteLength name) ::
      fieldsFrom (start + 3 + byteLength name) rest := by
  unfold fieldsFrom fieldCuts
  rw [cutter_fields.reference [] found, spans_flush]
  rfl

theorem byteLength_of_fieldAt? (found : fieldAt? s = some (name, rest)) :
    byteLength s = 3 + byteLength name + byteLength rest := by
  obtain ⟨rfl, -⟩ := fieldAt?_eq_some_iff.1 found
  rw [byteLength_cons, byteLength_cons, byteLength_cons, byteLength_append]
  show 1 + (1 + (1 + (byteLength name + byteLength rest))) = _
  omega

/-- The references of a text end where the text does, or before. -/
theorem fieldsFrom_within (s : List Char) :
    ∀ start, ∀ r ∈ fieldsFrom start s, r.2.2 ≤ start + byteLength s := by
  refine cutter_fields.induction (p := fun s => ∀ start, ∀ r ∈ fieldsFrom start s,
    r.2.2 ≤ start + byteLength s) ?_ ?_ ?_ s
  · intro start r among
    rw [fieldsFrom_nil] at among
    cases among
  · intro s name rest found ih start r among
    have length := byteLength_of_fieldAt? found
    rw [fieldsFrom_reference start found] at among
    rcases List.mem_cons.1 among with rfl | among
    · dsimp only
      omega
    · have later := ih _ r among
      omega
  · intro c s none ih start r among
    rw [fieldsFrom_cons start none] at among
    have later := ih _ r among
    rw [byteLength_cons]
    omega

/-- The fields in front of a text that no reference runs into are found as if it were the end. -/
theorem Apart.fieldsFrom {r : List Char} (apart : Apart r) (start : Nat) (s : List Char) :
    Template.fieldsFrom start (s ++ r) =
      Template.fieldsFrom start s ++ Template.fieldsFrom (start + byteLength s) r := by
  refine cutter_fields.induction (p := fun s => ∀ start, Template.fieldsFrom start (s ++ r) =
    Template.fieldsFrom start s ++ Template.fieldsFrom (start + byteLength s) r) ?_ ?_ ?_ s start
  · intro start
    rw [fieldsFrom_nil]
    rfl
  · intro s name rest found ih start
    have length : start + byteLength s = start + 3 + byteLength name + byteLength rest := by
      rw [byteLength_of_fieldAt? found]
      omega
    rw [fieldsFrom_reference start found,
      fieldsFrom_reference start (apart.fieldAt?_of_some found), ih, length]
    rfl
  · intro c s none ih start
    rw [List.cons_append, fieldsFrom_cons start none,
      fieldsFrom_cons start (apart.fieldAt?_of_none none), ih, byteLength_cons, Nat.add_assoc]

end

/-! ## Outside of documents -/

/-- The bytes of one reference are in front of those of another, or behind them. -/
def Outside (r d : List Char × Nat × Nat) : Prop := r.2.2 ≤ d.2.1 ∨ d.2.2 ≤ r.2.1

instance (r d : List Char × Nat × Nat) : Decidable (Outside r d) :=
  inferInstanceAs (Decidable (r.2.2 ≤ d.2.1 ∨ d.2.2 ≤ r.2.1))

/-- The bytes that blanking takes away in front of a place: those of the documents there, but two
for each. -/
def blankedBefore (documents : List (List Char × Nat × Nat)) (place : Nat) : Nat :=
  ((documents.filter fun d => d.2.2 ≤ place).map fun d => d.2.2 - d.2.1 - 2).sum

/-- Where a reference stands in the blanked text. -/
def moved (documents : List (List Char × Nat × Nat)) (r : List Char × Nat × Nat) :
    List Char × Nat × Nat :=
  back (blankedBefore documents r.2.1) r

/-- The references that lie outside of documents. -/
def outsideOf (documents fields : List (List Char × Nat × Nat)) : List (List Char × Nat × Nat) :=
  fields.filter fun r => ∀ d ∈ documents, Outside r d

section

variable {documents fields : List (List Char × Nat × Nat)} {d r : List Char × Nat × Nat}
  {place : Nat}

theorem outsideOf_append (documents fields more : List (List Char × Nat × Nat)) :
    outsideOf documents (fields ++ more) = outsideOf documents fields ++ outsideOf documents more :=
  List.filter_append fields more

theorem outsideOf_eq_nil (inside : ∀ r ∈ fields, ¬ Outside r d) :
    outsideOf (d :: documents) fields = [] := by
  refine List.filter_eq_nil_iff.2 fun r among outside => ?_
  exact inside r among (of_decide_eq_true outside d List.mem_cons_self)

theorem outsideOf_eq_self (outside : ∀ r ∈ fields, ∀ d ∈ documents, Outside r d) :
    outsideOf documents fields = fields :=
  List.filter_eq_self.2 fun r among => decide_eq_true (outside r among)

theorem outsideOf_cons (behind : ∀ r ∈ fields, d.2.2 ≤ r.2.1) :
    outsideOf (d :: documents) fields = outsideOf documents fields := by
  refine List.filter_congr fun r among => decide_eq_decide.2 ?_
  rw [List.forall_mem_cons]
  exact and_iff_right (Or.inr (behind r among))

theorem blankedBefore_cons (d : List Char × Nat × Nat) (documents : List (List Char × Nat × Nat))
    (place : Nat) : blankedBefore (d :: documents) place =
      (if d.2.2 ≤ place then d.2.2 - d.2.1 - 2 else 0) + blankedBefore documents place := by
  unfold blankedBefore
  rw [List.filter_cons]
  by_cases before : d.2.2 ≤ place
  · rw [if_pos before, if_pos (decide_eq_true before), List.map_cons, List.sum_cons]
  · rw [if_neg before, if_neg (by simpa using before), Nat.zero_add]

theorem blankedBefore_eq_zero (later : ∀ d ∈ documents, place < d.2.2) :
    blankedBefore documents place = 0 := by
  induction documents with
  | nil => rfl
  | cons d documents ih =>
    obtain ⟨behind, later⟩ := List.forall_mem_cons.1 later
    rw [blankedBefore_cons, if_neg (Nat.not_le.2 behind), ih later]

theorem back_back (j k : Nat) (r : List Char × Nat × Nat) : back j (back k r) = back (k + j) r := by
  unfold back
  rw [Nat.sub_sub, Nat.sub_sub]

/-- Behind a document all stands that many bytes further in front. -/
theorem moved_cons (behind : d.2.2 ≤ r.2.1) :
    moved (d :: documents) r = back (d.2.2 - d.2.1 - 2) (moved documents r) := by
  unfold moved
  rw [blankedBefore_cons, if_pos behind, back_back, Nat.add_comm]

/-- Documents further on move nothing. -/
theorem moved_eq_self (later : ∀ d ∈ documents, r.2.1 < d.2.2) : moved documents r = r := by
  unfold moved
  rw [blankedBefore_eq_zero later]
  rfl

end

/-! ## Cut by cut -/

/-- A text put together from its stretches and documents. -/
def wholeText (cuts : List Cut) : List Char :=
  cuts.flatMap (Cut.write id fun path => '%' :: '%' :: (path ++ ['%', '%']))

/-- The text with `[]` for its documents. -/
def blankText (cuts : List Cut) : List Char := cuts.flatMap (Cut.write id fun _ => ['[', ']'])

theorem wholeText_documentCuts (s : List Char) : wholeText (documentCuts s) = s :=
  cutter_documents.written_self _ (fun found => by simp [documentAt?_eq_some found]) s

/-- The fields of a text that stands at a place, without those in its documents. -/
def fieldsOutside (start : Nat) (cuts : List Cut) : List (List Char × Nat × Nat) :=
  outsideOf (spans 4 start cuts) (fieldsFrom start (wholeText cuts))

/-- The fields of the blanked text are those outside of documents, wherever the text stands; `k`
bytes were taken away in front of it. -/
def FieldsStay (cuts : List Cut) : Prop :=
  ∀ start k, fieldsFrom start (blankText cuts) =
    (fieldsOutside (start + k) cuts).map (back k ∘ moved (spans 4 (start + k) cuts))

theorem fieldsStay_nil : FieldsStay [] := by
  intro start k
  show fieldsFrom start [] = (outsideOf [] (fieldsFrom (start + k) [])).map _
  rw [fieldsFrom_nil, fieldsFrom_nil]
  rfl

/-- The fields of a document are those of its path. -/
theorem fieldsFrom_document (start : Nat) (path : List Char) (cuts : List Cut) :
    fieldsFrom start (wholeText (.reference path :: cuts)) =
      fieldsFrom (start + 2) path ++
        fieldsFrom (start + 4 + byteLength path) (wholeText cuts) := by
  have shape : wholeText (.reference path :: cuts) =
      '%' :: '%' :: (path ++ '%' :: '%' :: wholeText cuts) := by
    show '%' :: '%' :: (path ++ ['%', '%'] ++ wholeText cuts) = _
    rw [List.append_assoc]
    rfl
  have place : start + 2 + byteLength path + 1 + 1 = start + 4 + byteLength path := by omega
  have sign (s : List Char) : fieldAt? ('%' :: s) = none := fieldAt?_eq_none_of_ne s (by decide)
  rw [shape, fieldsFrom_cons start (sign _), fieldsFrom_cons _ (sign _), (apart_sign _).fieldsFrom,
    fieldsFrom_cons _ (sign _), fieldsFrom_cons _ (sign _)]
  exact congrArg (fieldsFrom (start + 2) path ++ fieldsFrom · (wholeText cuts)) place

theorem fieldsOutside_document (start : Nat) (path : List Char) (cuts : List Cut) :
    fieldsOutside start (.reference path :: cuts) =
      fieldsOutside (start + 4 + byteLength path) cuts := by
  unfold fieldsOutside
  rw [fieldsFrom_document, outsideOf_append, spans, outsideOf_eq_nil, outsideOf_cons]
  · rfl
  · intro r among
    exact (spans_bounds among).1
  · intro r among outside
    have bounds := spans_bounds among
    have within := fieldsFrom_within path _ r among
    have apart : r.2.2 ≤ start ∨ start + 4 + byteLength path ≤ r.2.1 := outside
    omega

/-- The fields in a path go, and those behind the document stay. -/
theorem FieldsStay.reference {cuts : List Cut} (stay : FieldsStay cuts) (path : List Char) :
    FieldsStay (.reference path :: cuts) := by
  intro start k
  have later := stay (start + 2) (k + (byteLength path + 2))
  have place : start + 2 + (k + (byteLength path + 2)) = start + k + 4 + byteLength path := by omega
  have taken : start + k + 4 + byteLength path - (start + k) - 2 + k =
      k + (byteLength path + 2) := by omega
  have bracket {c : Char} (s : List Char) (other : c ≠ '$') : fieldAt? (c :: s) = none :=
    fieldAt?_eq_none_of_ne s other
  rw [place] at later
  calc fieldsFrom start (blankText (.reference path :: cuts))
    _ = fieldsFrom start ('[' :: ']' :: blankText cuts) := rfl
    _ = fieldsFrom (start + 2) (blankText cuts) := by
      rw [fieldsFrom_cons start (bracket _ (by decide)), fieldsFrom_cons _ (bracket _ (by decide))]
      rfl
    _ = _ := by
      rw [later, fieldsOutside_document]
      refine List.map_congr_left fun r among => ?_
      have behind := (spans_bounds (List.mem_filter.1 among).1).1
      show _ = back k (moved (_ :: _) r)
      rw [moved_cons behind, back_back, taken]
      rfl

/-- The fields in a stretch stay. -/
theorem FieldsStay.text {cuts : List Cut} (stay : FieldsStay cuts) (s : List Char)
    (apart : Apart (wholeText cuts)) (apartBlank : Apart (blankText cuts)) :
    FieldsStay (.text s :: cuts) := by
  intro start k
  have documents : spans 4 (start + k) (.text s :: cuts) =
      spans 4 (start + byteLength s + k) cuts := by
    rw [spans, Nat.add_right_comm]
  have blanked : fieldsFrom start (blankText (.text s :: cuts)) =
      fieldsFrom start s ++ fieldsFrom (start + byteLength s) (blankText cuts) :=
    apartBlank.fieldsFrom start s
  have whole : fieldsFrom (start + k) (wholeText (.text s :: cuts)) =
      fieldsFrom (start + k) s ++ fieldsFrom (start + byteLength s + k) (wholeText cuts) := by
    rw [Nat.add_right_comm]
    exact apart.fieldsFrom (start + k) s
  -- all fields of the stretch end where the first document starts, or before
  have before {r d : List Char × Nat × Nat} (among : r ∈ fieldsFrom (start + k) s)
      (document : d ∈ spans 4 (start + byteLength s + k) cuts) : r.2.2 ≤ d.2.1 := by
    have within := fieldsFrom_within s _ r among
    have bounds := spans_bounds document
    omega
  have unmoved : ∀ r ∈ fieldsFrom (start + k) s,
      (back k ∘ moved (spans 4 (start + byteLength s + k) cuts)) r = back k r := by
    intro r among
    refine congrArg (back k) (moved_eq_self fun d document => ?_)
    have ends := before among document
    have bounds := spans_bounds among
    have bounds' := spans_bounds document
    omega
  have same : (fieldsFrom (start + k) s).map (back k) = fieldsFrom start s := by
    have inverse : back k ∘ forward k = id := funext (back_forward k)
    rw [fieldsFrom, spans_add, List.map_map, inverse, List.map_id]
    rfl
  rw [blanked, fieldsOutside, documents, whole, outsideOf_append,
    outsideOf_eq_self fun r among d document => Or.inl (before among document), List.map_append,
    List.map_congr_left unmoved, same, stay (start + byteLength s) k]
  rfl

theorem Spaced.fieldsStay {cuts : List Cut} (spaced : Spaced cuts) : FieldsStay cuts := by
  induction spaced with
  | nil => exact fieldsStay_nil
  | last s => exact fieldsStay_nil.text s apart_nil apart_nil
  | reference path _ stay => exact stay.reference path
  | text s path _ stay =>
    exact (stay.reference path).text s (apart_sign _) (apart_bracket _)

theorem spans_eq_nil {around start : Nat} {cuts : List Cut} (none : names cuts = []) :
    spans around start cuts = [] := by
  rw [← map_fst_spans around start] at none
  exact List.map_eq_nil_iff.1 none

/-- **What blanking leaves.** A blanked text has no document. Its field references are those of the
text that lie outside of documents, in their order, each as far in front of where it stood as
blanking has taken bytes away before it. -/
theorem references_blankDocuments (s : List Char) :
    documentSpans (blankDocuments ['[', ']'] s) = [] ∧
      fieldSpans (blankDocuments ['[', ']'] s) =
        (outsideOf (documentSpans s) (fieldSpans s)).map (moved (documentSpans s)) := by
  refine ⟨spans_eq_nil (names_documentCuts_blank s), ?_⟩
  have stay := (cutter_documents.spaced s).fieldsStay 0 0
  unfold fieldsOutside at stay
  have whole : wholeText (documentCutsFrom [] s) = s := wholeText_documentCuts s
  have blank : blankText (documentCutsFrom [] s) = blankDocuments ['[', ']'] s :=
    (blankDocuments_eq _ s).symm
  rw [whole, blank] at stay
  exact stay

/-- The signs at the end close nothing and stay; the field in the path goes. -/
example :
    let s := "%%$$.a%%$$.b%%".toList
    documentSpans s = [("$$.a".toList, 0, 8)] ∧
      fieldSpans s = [(['a'], 2, 6), (['b'], 8, 12)] ∧
      fieldSpans (blankDocuments ['[', ']'] s) = [(['b'], 2, 6)] := by
  decide +kernel

end Formulary.Template
