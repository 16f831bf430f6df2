import Formulary.Text.Search

/-!
# Paths

A path is names with slashes between them. Empty names and single dots count for nothing; two dots
are the parent.
-/

namespace Formulary.Text

/-- The names of a path that count. -/
def pathNames (path : List Char) : List (List Char) :=
  (splitOn ['/'] path).filter fun name => !name.isEmpty && name != ['.']

/-- The last name of a path, unless it is the parent. -/
def fileName? (path : List Char) : Option (List Char) :=
  (pathNames path).getLast?.filter (· != ['.', '.'])

/-- What stands after the last dot of the last name; a dot at its start does not count. -/
def extension? (path : List Char) : Option (List Char) :=
  match fileName? path with
  | none => none
  | some name =>
    match cutLast? ['.'] name with
    | none | some ([], _) => none
    | some (_, extension) => some extension

end Formulary.Text
