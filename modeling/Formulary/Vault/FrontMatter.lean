import Formulary.Text.Blank
import Formulary.Text.Lines
import Formulary.Text.Search
import Formulary.Yaml.Value

/-!
# Front matter

A note may start with a block of YAML between two lines of three dashes. It is read as an object; a
note without such a block, and one with an empty block, have the empty object.
-/

namespace Formulary.FrontMatter

inductive Fault where
  /-- The line that ends the block is missing. -/
  | unclosed
  /-- The block is not YAML, or has no counterpart in JSON. -/
  | malformed
  | notMapping (value : Json)

/-- The wording of a fault. -/
def Fault.message : Fault → String
  | .unclosed => "Front matter block is not closed"
  | .malformed => "Front matter is not valid YAML"
  | .notMapping v => "Front matter is not a mapping: " ++ v.text

/-- The line opens or closes a block. -/
def isFence (line : List Char) : Bool := Text.trimEnd line = ['-', '-', '-']

/-- The lines in front of the one that closes a block. -/
def closedBlock? : List (List Char) → Option (List (List Char))
  | [] => none
  | line :: lines => if isFence line then some [] else (closedBlock? lines).map (line :: ·)

/-- The object of a block. -/
def ofBlock (block : List Char) : Except Fault Members :=
  if (Text.trim block).isEmpty then .ok []
  else match Yaml.read? block with
    | none => .error .malformed
    | some .null => .ok []
    | some (.object members) => .ok members
    | some v => .error (.notMapping v)

/-- A text without the mark of its byte order. -/
def withoutMark : List Char → List Char
  | '\ufeff' :: s => s
  | s => s

/-- The front matter of a note. -/
def ofNote (note : List Char) : Except Fault Members :=
  match Text.lines (withoutMark note) with
  | [] => .ok []
  | first :: lines =>
    if isFence first then
      match closedBlock? lines with
      | none => .error .unclosed
      | some block => ofBlock (Text.join ['\n'] block)
    else .ok []

end Formulary.FrontMatter
