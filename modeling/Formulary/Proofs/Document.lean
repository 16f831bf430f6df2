import Formulary.Proofs.JsonTree
import Formulary.Proofs.TextValue

/-!
# Documents in an expression

A document reference becomes the JSON text of a note's front matter or of a folder's names
(`DocumentAt`). That text starts with a bracket or a brace and ends with one, so it stands in the
expression as tokens of its own, whatever is around it (`tokens?_resolve`).
-/

namespace Formulary.Template

open Script

/-- What a document reference stands for: the names in a folder, when the path ends in a slash, or
the front matter of a note. -/
inductive DocumentAt (store : DocumentStore) (path : List Char) : Json → Prop
  | folder {names : List String} (slash : path.getLast? = some '/')
    (listed : store.listFolder (String.ofList path) = some names) :
    DocumentAt store path (.ofStrings names)
  | note {file : List Char} {note : String} {members : Members}
    (noSlash : path.getLast? ≠ some '/') (named : notePath path = .ok file)
    (found : store.findNote (String.ofList file) = some note)
    (read : store.readNote note = .ok members) : DocumentAt store path (.object members)

variable {store : DocumentStore} {context : Context} {path : List Char} {v : Json}

theorem DocumentAt.compound (document : DocumentAt store path v) : v.isCompound = true := by
  cases document <;> rfl

theorem DocumentAt.content (document : DocumentAt store path v) :
    answer (documentContent store path) = v.chars := by
  unfold documentContent
  cases document with
  | folder slash listed =>
    rw [if_pos slash]
    unfold folderContent
    dsimp only
    rw [listed]
    rfl
  | note noSlash named found read =>
    rw [if_neg noSlash]
    unfold noteContent
    rw [named]
    dsimp only
    rw [found]
    refine (answer_bind _ ?_).trans ?_
    · refine (recording_ask _ _).bind fun members => ?_
      cases members with
      | ok members => exact recording_pure _
      | error reason => exact (recording_raise _).bind fun _ => recording_pure _
    · show answer (ask (.read _) (store.readNote _) >>= _) = _
      rw [read]
      rfl

/-! ## The resolved text, piece by piece -/

/-- The value of a document, where there is one. -/
theorem DocumentAt.stands (document : DocumentAt store path v) :
    Stands (answer (documentContent store path)) (valueTokens v) := by
  rw [document.content]
  exact stands_compound document.compound

/-- The tokens of a piece of an expression: those of a plain stretch with its fields quoted, or of
the value of a document. -/
def pieceTokens (context : Context) (value : List Char → Json) : Cut → List Token
  | .text s => (fieldCuts s).flatMap (cutTokens context)
  | .reference path => valueTokens (value path)

/-- **A resolved text is cut into tokens piece by piece.** -/
theorem tokens?_resolve {s : List Char} {value : List Char → Json}
    (fragments : ∀ t, .text t ∈ documentCuts s → Fragmented (fieldCuts t))
    (documents : ∀ path ∈ names (documentCuts s),
      DocumentAt store (spliceFields context path) (value path)) :
    tokens? (answer (resolve store context s)) =
      some ((documentCuts s).flatMap (pieceTokens context value)) := by
  unfold resolve
  rw [answer_resolveCuts]
  refine ((cutter_documents.spaced s).lexes (fun t among => ?_) (fun path among => ?_)).tokens?
  · exact lexes_quoteFields context (fragments t among)
  · exact (documents path (mem_names.2 among)).stands

end Formulary.Template
