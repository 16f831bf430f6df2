import Formulary.Json.Basic

/-!
# Document stores

Where references to notes and folders are looked up. A store is its answers; what asks it keeps a
record of the questions.
-/

namespace Formulary

structure DocumentStore where
  /-- The note at a path, if there is one. -/
  findNote : String → Option String
  /-- The front matter of a note, or why it cannot be read. -/
  readNote : String → Except String Members
  /-- The names in a folder, if there is one. -/
  listFolder : String → Option (List String)

/-- A question to a store. -/
inductive Lookup where
  | find (path : String)
  | read (path : String)
  | list (path : String)
  deriving DecidableEq, Repr

end Formulary
