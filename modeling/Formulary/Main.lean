import Formulary.Display.Console
import Formulary.Display.Screen
import Formulary.Launch
import Std.Time.DateTime.Timestamp

/-!
# The command line

Opens the form that is named, shows it, and takes keys line by line. Notes and the configuration are
kept on disk.
-/

open Formulary Formulary.Display

/-- The text of a file, if it can be read. -/
def textOfFile? (path : String) : IO (Option String) := do
  try return some (← IO.FS.readFile path)
  catch _ => return none

/-- The path of the folder that a path is in. -/
def folderOf (path : String) : String := "/".intercalate (path.splitOn "/").dropLast

/-- Writes a file with the folders it is in. -/
def keepFile (path text : String) : IO Unit := do
  if !(folderOf path).isEmpty then IO.FS.createDirAll (folderOf path)
  IO.FS.writeFile path text

/-- The path of the configuration. -/
def configPath : IO String := do
  let folder ← match ← IO.getEnv "XDG_CONFIG_HOME" with
    | some folder => pure folder
    | none => pure ((← IO.getEnv "HOME").getD "" ++ "/.config")
  return folder ++ "/dynaform/config.json"

/-- The notes of a vault that a form names. -/
def loadNotes (vault : Vault) (form : Form.Definition) : IO FileTree := do
  let mut tree : FileTree := (FileTree.makeFolders [] vault.base |>.run {}).2
  for path in Launch.namedNotes form do
    if let some text ← textOfFile? (vault.root ++ "/" ++ path) then
      tree := (vault.create path text |>.run tree).2
  return tree

/-- Keeps on disk what a step has written. -/
def keep (config : String) (before after : Console) : IO Unit := do
  let known := (before.vault.files before.tree).map (·.1)
  for (path, text) in after.vault.files after.tree do
    if !known.contains path then keepFile (after.vault.root ++ "/" ++ path) text
  if before.config != after.config then keepFile config (after.config.getD "")

/-- Shows the form and takes keys until the user quits or the input ends. -/
partial def serveKeys (config : String) (input : IO.FS.Stream) (time : Nat) (c : Console) :
    IO Unit := do
  IO.println ("\n".intercalate (draw c.board 80 24).texts)
  if c.quitting then return
  let line ← input.getLine
  if line.isEmpty then return
  let now ← IO.monoMsNow
  let waited := c.wait (now - time)
  let next := (Key.ofLine (line.toList.filter (· != '\n'))).foldl Console.press waited
  keep config c next
  serveKeys config input now next

/-- The form that a command line names, or what is wrong with it. -/
def formOfArgument (config : Config) (name : Option String) :
    IO (Except String Form.Definition) := do
  let text ← match name with
    | some path => textOfFile? path
    | none => pure none
  match Launch.choose config (fun _ => text.isSome) name with
  | .form form => return .ok form
  | .unknown name => return .error ("Unknown form '" ++ name ++ "'\n\n" ++ Launch.usage)
  | .file path => match text with
    | none => return .error ("Failed to read form definition " ++ path)
    | some text => match Form.Definition.ofText? text.toList with
      | some form => return .ok form
      | none => return .error ("Invalid form definition in " ++ path)

/-- Opens a form over the vault of the configuration. -/
def openForm (configFile : String) (text : Option String) (config : Config)
    (form : Form.Definition) : IO (Except String Unit) := do
  let vault : Vault := ⟨config.vault (← IO.getEnv "DYNAFORM_VAULT")⟩
  let destination : Destination :=
    if Preset.isFieldBuilder form then .storedForm else .note
  let now ← Std.Time.Timestamp.now
  let debounce := config.debounce.getD Form.Session.defaultDebounce
  match Console.open? form debounce vault (← loadNotes vault form) text destination
      now.toMillisecondsSinceUnixEpoch.val with
  | .error e => return .error e.message
  | .ok c =>
    serveKeys configFile (← IO.getStdin) (← IO.monoMsNow) c
    return .ok ()

def main (args : List String) : IO UInt32 := do
  if args.head?.any Launch.isHelp then
    IO.println Launch.usage
    return 0
  let configFile ← configPath
  let text ← textOfFile? configFile
  let outcome ← match text.map Config.load with
    | some (.error fault) => pure (.error fault.message)
    | some (.ok config) => match ← formOfArgument config args.head? with
      | .ok form => openForm configFile text config form
      | .error e => pure (.error e)
    | none => match ← formOfArgument {} args.head? with
      | .ok form => openForm configFile text {} form
      | .error e => pure (.error e)
  match outcome with
  | .ok () => return 0
  | .error e =>
    IO.eprintln ("Error: " ++ e)
    return 1
