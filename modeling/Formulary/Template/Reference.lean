import Formulary.Number.Whole

/-!
# References in expressions

`$$.` and the longest run of letters, digits and dashes after it name a field; a path between
double percent signs on one line names a note or a folder. A text is cut at its references into
plain stretches and references, in order (`fieldCuts`, `documentCuts`); putting the pieces together
again gives the text.
-/

namespace Formulary.Template

/-- A stretch of plain text, or the name in a reference. -/
inductive Cut where
  | text (s : List Char)
  | reference (name : List Char)
  deriving DecidableEq

/-- Plain text, read last character first, in front of more cuts. -/
def Cut.flush (text : List Char) (cuts : List Cut) : List Cut :=
  if text.isEmpty then cuts else .text text.reverse :: cuts

/-- The names of the references, in order. -/
def names (cuts : List Cut) : List (List Char) :=
  cuts.filterMap fun
    | .text _ => none
    | .reference name => some name

/-! ## Fields -/

/-- A character of a field's name. -/
def isFieldChar (c : Char) : Bool := c.isAlphanum || c = '-'

/-- The name of the field reference at the front, and what follows it. -/
def fieldAt? : List Char → Option (List Char × List Char)
  | '$' :: '$' :: '.' :: s =>
    if (s.takeWhile isFieldChar).isEmpty then none
    else some (s.takeWhile isFieldChar, s.dropWhile isFieldChar)
  | _ => none

theorem fieldAt?_shorter {s name rest : List Char} (h : fieldAt? s = some (name, rest)) :
    rest.length < s.length := by
  unfold fieldAt? at h
  split at h
  · rename_i s
    have := (List.dropWhile_sublist isFieldChar (l := s)).length_le
    split at h
    · contradiction
    · obtain ⟨_, rfl⟩ := Prod.mk.inj (Option.some.inj h)
      simp; omega
  · contradiction

/-- The cuts at field references; `text` is the plain stretch under way, last character first. -/
def fieldCutsFrom (text s : List Char) : List Cut :=
  match h : fieldAt? s with
  | some (name, rest) =>
    have := fieldAt?_shorter h
    Cut.flush text (.reference name :: fieldCutsFrom [] rest)
  | none =>
    match s with
    | [] => Cut.flush text []
    | c :: s => fieldCutsFrom (c :: text) s
termination_by s.length

/-- The text cut at its field references. -/
def fieldCuts (s : List Char) : List Cut := fieldCutsFrom [] s

/-- The names of the fields that a text refers to, each once, in order of first appearance. -/
def referencedFields (s : List Char) : List String :=
  ((names (fieldCuts s)).map String.ofList).eraseDups

/-! ## Documents -/

/-- The text before the next double percent sign on the line, and what follows that sign. -/
def closingSign? : List Char → Option (List Char × List Char)
  | '%' :: '%' :: s => some ([], s)
  | '\n' :: _ => none
  | c :: s => (closingSign? s).map fun (path, rest) => (c :: path, rest)
  | [] => none

/-- The path of the document reference at the front, and what follows it. -/
def documentAt? : List Char → Option (List Char × List Char)
  | '%' :: '%' :: s => closingSign? s
  | _ => none

theorem closingSign?_length_le {s path rest : List Char} (h : closingSign? s = some (path, rest)) :
    rest.length ≤ s.length := by
  induction s using closingSign?.induct generalizing path with
  | case1 s =>
    simp [closingSign?] at h
    simp [h]; omega
  | case2 s => simp [closingSign?] at h
  | case3 c s h₁ h₂ ih =>
    rw [closingSign?.eq_3 _ _ h₁ h₂] at h
    obtain ⟨⟨path', rest'⟩, h', heq⟩ := Option.map_eq_some_iff.1 h
    obtain ⟨_, rfl⟩ := Prod.mk.inj heq
    have := ih h'
    simp; omega
  | case4 => simp [closingSign?] at h

theorem documentAt?_shorter {s path rest : List Char} (h : documentAt? s = some (path, rest)) :
    rest.length < s.length := by
  unfold documentAt? at h
  split at h
  · have := closingSign?_length_le h
    simp; omega
  · contradiction

/-- The cuts at document references; `text` is the plain stretch under way, last character first. -/
def documentCutsFrom (text s : List Char) : List Cut :=
  match h : documentAt? s with
  | some (path, rest) =>
    have := documentAt?_shorter h
    Cut.flush text (.reference path :: documentCutsFrom [] rest)
  | none =>
    match s with
    | [] => Cut.flush text []
    | c :: s => documentCutsFrom (c :: text) s
termination_by s.length

/-- The text cut at its document references. -/
def documentCuts (s : List Char) : List Cut := documentCutsFrom [] s

/-- The text with `replacement` in place of every document reference. -/
def blankDocuments (replacement s : List Char) : List Char :=
  (documentCuts s).flatMap fun
    | .text s => s
    | .reference _ => replacement

/-! ## Places -/

/-- The number of bytes of a text. -/
def byteLength (s : List Char) : Nat := (s.map Char.utf8Size).sum

/-- The references with the bytes they start and end at, when `around` bytes belong to a reference
besides its name. -/
def spans (around : Nat) (start : Nat) : List Cut → List (List Char × Nat × Nat)
  | [] => []
  | .text s :: cuts => spans around (start + byteLength s) cuts
  | .reference name :: cuts =>
    let stop := start + around + byteLength name
    (name, start, stop) :: spans around stop cuts

/-- The field references of a text with their places. -/
def fieldSpans (s : List Char) : List (List Char × Nat × Nat) := spans 3 0 (fieldCuts s)

/-- The document references of a text with their places. -/
def documentSpans (s : List Char) : List (List Char × Nat × Nat) := spans 4 0 (documentCuts s)

end Formulary.Template
