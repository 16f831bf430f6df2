import Formulary.Json.Printer
import Formulary.Notice
import Formulary.Template.Reference
import Formulary.Template.Store
import Formulary.Text.Path

/-!
# Resolving references

A field reference becomes the quoted value of the field, or inside a document reference its bare
value, where it helps to spell the path. A document reference becomes JSON text: the front matter
of a note or the names in a folder; one that cannot be looked up becomes empty, with a warning.
Documents are located in the expression as written, so a value never reads as a reference.
-/

namespace Formulary.Template

/-- The values of fields that an expression may read. -/
abbrev Context := String → Option String

/-- What happened while references were looked up. -/
structure Trace where
  lookups : List Lookup := []
  notices : List Notice := []

/-- A computation that asks a store and raises notices. -/
abbrev ResolveM := StateM Trace

def raise (notice : Notice) : ResolveM Unit :=
  modify fun t => { t with notices := t.notices ++ [notice] }

/-- Asks the store, on record. -/
def ask {α : Type} (lookup : Lookup) (answer : α) : ResolveM α := do
  modify fun t => { t with lookups := t.lookups ++ [lookup] }
  return answer

/-! ## Fields -/

/-- The value of a field; empty if it has none. -/
def fieldValue (context : Context) (name : List Char) : List Char :=
  ((context (String.ofList name)).getD "").toList

/-- The text with each field reference replaced by the quoted value. -/
def quoteFields (context : Context) (s : List Char) : List Char :=
  (fieldCuts s).flatMap fun
    | .text s => s
    | .reference name => Json.quoted (fieldValue context name)

/-- The text with each field reference replaced by the bare value. -/
def spliceFields (context : Context) (s : List Char) : List Char :=
  (fieldCuts s).flatMap fun
    | .text s => s
    | .reference name => fieldValue context name

/-- Field references replaced everywhere, document references left in place. -/
def substituteFields (context : Context) (s : List Char) : List Char :=
  (documentCuts s).flatMap fun
    | .text s => quoteFields context s
    | .reference path => ['%', '%'] ++ spliceFields context path ++ ['%', '%']

/-! ## Documents -/

/-- The ending of the names of notes. -/
def noteExtension : List Char := ['m', 'd']

/-- The path of a note with its ending, or an ending that is not a note's. -/
def notePath (path : List Char) : Except (List Char) (List Char) :=
  match Text.extension? path with
  | none => .ok (path ++ '.' :: noteExtension)
  | some extension => if extension = noteExtension then .ok path else .error extension

/-- The path without slashes at its end. -/
def trimSlashes (path : List Char) : List Char := (path.reverse.dropWhile (· = '/')).reverse

/-- The JSON text of a folder's names. -/
def folderContent (store : DocumentStore) (path : List Char) : ResolveM (List Char) := do
  let key := String.ofList path
  match ← ask (.list key) (store.listFolder key) with
  | some names => return (Json.ofStrings names).chars
  | none =>
    raise (.warning ("Folder not found at " ++ String.ofList (trimSlashes path)))
    return []

/-- The JSON text of a note's front matter. -/
def noteContent (store : DocumentStore) (path : List Char) : ResolveM (List Char) := do
  match notePath path with
  | .error extension =>
    raise (.warning ("Can't handle ." ++ String.ofList extension ++ " extension, .md expected"))
    return []
  | .ok path =>
    let key := String.ofList path
    match ← ask (.find key) (store.findNote key) with
    | none =>
      raise (.warning ("File not found at " ++ key))
      return []
    | some note =>
      match ← ask (.read note) (store.readNote note) with
      | .ok members => return (Json.object members).chars
      | .error reason =>
        raise (.warning ("Failed to read " ++ key ++ ": " ++ reason))
        return []

/-- The JSON text of one document; a path with a slash at its end names a folder. -/
def documentContent (store : DocumentStore) (path : List Char) : ResolveM (List Char) :=
  if path.getLast? = some '/' then folderContent store path else noteContent store path

/-- The pieces of an expression, resolved one after the other. -/
def resolveCuts (store : DocumentStore) (context : Context) : List Cut → ResolveM (List Char)
  | [] => return []
  | .text s :: cuts => return quoteFields context s ++ (← resolveCuts store context cuts)
  | .reference path :: cuts => do
    let content ← documentContent store (spliceFields context path)
    return content ++ (← resolveCuts store context cuts)

/-- The expression with its references replaced. -/
def resolve (store : DocumentStore) (context : Context) (s : List Char) : ResolveM (List Char) :=
  resolveCuts store context (documentCuts s)

end Formulary.Template
