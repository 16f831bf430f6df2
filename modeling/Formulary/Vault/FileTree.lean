/-!
# File trees

What a disk holds: files and folders by their location, the names on the way from the top. Every
location that the disk is handed, to be looked at, listed, made or written, is on record. The folders
that it passes on the way there are not.
-/

namespace Formulary

/-- The names of the folders from the top, and the own name last. -/
abbrev Location := List String

inductive Entry where
  | file (text : String)
  | folder
  deriving DecidableEq, Repr

def Entry.isFolder : Entry → Bool
  | .folder => true
  | .file _ => false

structure FileTree where
  /-- What was put into the tree, the latest last. -/
  entries : List (Location × Entry) := []
  /-- The locations that were touched. -/
  touched : List Location := []
  deriving DecidableEq

/-- A computation on a tree. -/
abbrev FileM := StateM FileTree

namespace FileTree

/-- What stands at a location. The top is a folder. -/
def at? (t : FileTree) (l : Location) : Option Entry :=
  if l = [] then some .folder else t.entries.lookup l

/-- The name of an entry of a folder. -/
def nameIn? (folder l : Location) : Option String :=
  match folder, l with
  | [], [name] => some name
  | n :: folder, m :: l => if n = m then nameIn? folder l else none
  | _, _ => none

/-- The entries of a folder with their names. -/
def children (t : FileTree) (folder : Location) : List (String × Entry) :=
  t.entries.filterMap fun (l, entry) => (nameIn? folder l).map (·, entry)

/-- A name that a file or folder can have: not empty, not too long, and without the character that
ends names. -/
def isUsable (name : String) : Bool :=
  !name.isEmpty && name.utf8ByteSize ≤ 255 && !name.toList.contains '\x00'

/-- Takes down that a location is touched. -/
def touch (l : Location) : FileM Unit := modify fun t => { t with touched := t.touched ++ [l] }

/-- What stands at a location, on record. -/
def look (l : Location) : FileM (Option Entry) := do
  touch l
  return (← get).at? l

/-- The entries of a folder, on record. -/
def list (folder : Location) : FileM (List (String × Entry)) := do
  touch folder
  return (← get).children folder

/-- Adds something at a location where nothing stands, if the name allows it. -/
def add (l : Location) (entry : Entry) : FileM Bool := do
  let t ← get
  if (t.at? l).isSome || !(l.getLast?.any isUsable) then return false
  set { t with entries := t.entries ++ [(l, entry)] }
  return true

/-- Adds something at a location, on record. -/
def put (l : Location) (entry : Entry) : FileM Bool := do
  touch l
  add l entry

/-- Whether a folder stands at a location, if anything does. -/
def folder? (l : Location) : FileM (Option Bool) := return ((← get).at? l).map Entry.isFolder

/-- Makes folders, one inside the other. Those that are there already stay. -/
def makeFolders (base : Location) : List String → FileM Bool
  | [] => return true
  | name :: names => do
    let l := base ++ [name]
    match ← folder? l with
    | some true => makeFolders l names
    | some false => return false
    | none => if ← add l .folder then makeFolders l names else return false

/-- Makes the folder at a location, with all that it is in, on record. A path with the character that
ends names is refused before anything is made. -/
def makeFolder (l : Location) : FileM Bool := do
  touch l
  if l.any (·.toList.contains '\x00') then return false
  else makeFolders [] l

end FileTree

end Formulary
