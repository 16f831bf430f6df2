import Formulary.Template.Store
import Formulary.Text.Path
import Formulary.Vault.FileTree
import Formulary.Vault.FrontMatter

/-!
# Vaults

A vault is a folder of notes. Paths are given relative to it and never lead out of it, with one
exception: to add a note at the path of the vault itself, the folder above it is made first. Notes are
only ever added: no note is changed. The disk may give up while the text of a new note is written;
the note is there then, with a part of its text.
-/

namespace Formulary

structure Vault where
  /-- The path of the folder. -/
  root : String

namespace Vault

/-- Where the folder is. -/
def base (v : Vault) : Location := (Text.pathNames v.root.toList).map String.ofList

/-! ## Paths -/

/-- A path in a vault. -/
structure Place where
  /-- The path as it was given, without the slashes at its start. -/
  path : List Char
  /-- The names on it. -/
  names : List String
  /-- A slash or a dot at its end says that it is a folder. -/
  asFolder : Bool

/-- The name counts for nothing on a path. -/
def isIdle (name : List Char) : Bool := name.isEmpty || name = ['.']

/-- The place of a path. A path that goes to a parent has none. -/
def place? (path : List Char) : Option Place :=
  let path := path.dropWhile (· = '/')
  let names := Text.splitOn ['/'] path
  if names.contains ['.', '.'] then none
  else some ⟨path, (Text.pathNames path).map String.ofList, names.getLast?.any isIdle⟩

def location (v : Vault) (p : Place) : Location := v.base ++ p.names

/-- The text of a path from the top. -/
def pathText (v : Vault) (path : List Char) : String := v.root ++ "/" ++ String.ofList path

/-- The text of the path of the folder that a path is in. -/
def folderOf (path : List Char) : List Char :=
  let own := (Text.splitOn ['/'] path).reverse.dropWhile isIdle
  Text.join ['/'] ((own.drop 1).dropWhile isIdle).reverse

/-- The text of the path of the folder that a place is in. The vault itself is in the folder above
it. -/
def folderText (v : Vault) (p : Place) : String :=
  if p.names.isEmpty then String.ofList (folderOf v.root.toList)
  else if (folderOf p.path).isEmpty then v.root
  else v.pathText (folderOf p.path)

/-! ## Reading -/

/-- The text of the file at a place. -/
def fileText? (v : Vault) (p : Place) : FileM (Option String) := do
  match ← FileTree.look (v.location p) with
  | some (.file text) => return if p.asFolder then none else some text
  | _ => return none

/-- The path, if a file is there. -/
def find (v : Vault) (path : String) : FileM (Option String) := do
  match place? path.toList with
  | none => return none
  | some p => return (← v.fileText? p).map fun _ => path

inductive ReadError where
  /-- The path leads out of the vault. -/
  | outside (path : String)
  /-- No file is at the path, which is given from the top. -/
  | missing (path : String)
  | malformed (path : String) (fault : FrontMatter.Fault)

/-- The wording of an error. -/
def ReadError.message : ReadError → String
  | .outside path => "Invalid note path: " ++ path
  | .missing path => "Failed to read " ++ path
  | .malformed path _ => "Invalid front matter in " ++ path

/-- The front matter of a note. -/
def read (v : Vault) (path : String) : FileM (Except ReadError Members) := do
  match place? path.toList with
  | none => return .error (.outside path)
  | some p =>
    match ← v.fileText? p with
    | none => return .error (.missing (v.pathText p.path))
    | some text => match FrontMatter.ofNote text.toList with
      | .ok members => return .ok members
      | .error fault => return .error (.malformed path fault)

/-- A name without its ending; a dot at its start does not begin an ending. -/
def stem (name : List Char) : List Char :=
  match Text.cutLast? ['.'] name with
  | some (c :: before, _) => c :: before
  | _ => name

/-- The name under which an entry is listed, unless it is hidden: a file without its ending. -/
def listedName? (name : String) (entry : Entry) : Option String :=
  let shown := if entry.isFolder then name.toList else stem name.toList
  if shown.head? = some '.' then none else some (String.ofList shown)

/-- The names in a folder, in their order. -/
def list (v : Vault) (path : String) : FileM (Option (List String)) := do
  match place? (path.toList.reverse.dropWhile (· = '/')).reverse with
  | none => return none
  | some p =>
    match ← FileTree.look (v.location p) with
    | some .folder =>
      let entries ← FileTree.list (v.location p)
      let names := entries.filterMap fun (name, entry) => listedName? name entry
      return some (names.mergeSort fun a b => !(b < a))
    | _ => return none

/-- The vault as a store of documents. -/
def documents (v : Vault) (t : FileTree) : DocumentStore where
  findNote path := ((v.find path).run t).1
  readNote path := ((v.read path).run t).1.mapError ReadError.message
  listFolder path := ((v.list path).run t).1

/-! ## Writing -/

inductive CreateError where
  /-- The path leads out of the vault. -/
  | outside (path : String)
  /-- The folder at a path from the top cannot be made. -/
  | folder (path : String)
  /-- The note cannot be made, or is there already. -/
  | note (path : String)
  /-- The text cannot be written, for a reason that the disk gives. -/
  | text (reason : String)

/-- The wording of an error. -/
def CreateError.message : CreateError → String
  | .outside path => "Refusing to write outside the vault: " ++ path
  | .folder path => "Failed to create folder " ++ path
  | .note path => "Failed to create note " ++ path
  | .text reason => reason

/-- How the disk takes the text of a new file. -/
inductive Writing where
  | whole
  /-- The disk gives up after some characters, and says why. -/
  | torn (count : Nat) (reason : String)

/-- What is in the file then. -/
def Writing.kept : Writing → String → String
  | .whole, text => text
  | .torn count _, text => String.ofList (text.toList.take count)

/-- What the vault answers, once the file is there. -/
def Writing.answer : Writing → String → Except CreateError String
  | .whole, path => .ok path
  | .torn _ reason, _ => .error (.text reason)

/-- Adds a note, with the folders it is in, and answers with its path from the top. The file is made
before its text is written, and it stays if that fails. -/
def createOn (v : Vault) (writing : Writing) (path text : String) :
    FileM (Except CreateError String) := do
  match place? path.toList with
  | none => return .error (.outside path)
  | some p =>
    -- Without a name on the path this is the folder above the vault.
    if !(← FileTree.makeFolder (v.location p).dropLast) then
      return .error (.folder (v.folderText p))
    else if p.asFolder then
      FileTree.touch (v.location p)
      return .error (.note (v.pathText p.path))
    else if ← FileTree.put (v.location p) (.file (writing.kept text)) then
      return writing.answer (v.pathText p.path)
    else return .error (.note (v.pathText p.path))

/-- Adds a note on a disk that takes texts as a whole. -/
def create (v : Vault) (path text : String) : FileM (Except CreateError String) :=
  v.createOn .whole path text

/-- The files of the vault with their paths in it. -/
def files (v : Vault) (t : FileTree) : List (String × String) :=
  t.entries.filterMap fun
    | (l, .file text) =>
      if v.base.isPrefixOf l then some ("/".intercalate (l.drop v.base.length), text) else none
    | (_, .folder) => none

end Vault

end Formulary
