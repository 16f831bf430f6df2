import Formulary.Display.Board
import Formulary.Display.Canvas
import Formulary.Display.Window
import Formulary.Text.Case
import Formulary.Text.Search

/-!
# The screen

The form fills the screen but for the last row, which tells what the keys do and what happened last.
Only as many fields are drawn as there are rows for, the one with the focus among them. An error
lies over everything in a box of its own.
-/

namespace Formulary.Display

open Canvas (titleLeft)

/-! ## Fields -/

/-- What marks the place where typed text goes. -/
def caret : List Cluster := [['▌']]

/-- What is drawn in place of an empty text. -/
def emptyText (v : FieldView) (active : Bool) : String :=
  if !v.placeholder.isEmpty then v.placeholder
  else if active then ""
  else "(empty)"

/-- The lines with something after the last one. -/
def append (tail : List Cluster) : List (List Cluster) → List (List Cluster)
  | [] => [tail]
  | [line] => [line ++ tail]
  | line :: lines => line :: append tail lines

/-- The paragraphs in the frame of a field. -/
def fieldText (v : FieldView) (active : Bool) : List (List Cluster) :=
  let caret := if active && v.acceptsText then caret else []
  if v.value.isEmpty && v.acceptsText then [caret ++ Text.drawn (emptyText v active).toList]
  else if v.isMultiline then append caret ((Text.lines v.value.toList).map Text.drawn)
  else [Text.drawn v.shown.toList ++ caret]

/-- The title of a field. A required one has a star. -/
def fieldTitle (v : FieldView) : String :=
  " " ++ v.label ++ (if v.required then " *" else "") ++ " "

/-- The field is moved by arrows along its limits. -/
def isRange (v : FieldView) : Bool :=
  match v.kind with
  | .range .. => true
  | _ => false

def drawField (c : Canvas) (a : Area) (v : FieldView) (active : Bool) : Canvas :=
  let c := c.frame a
  let c := if isRange v then c.titleRight a a.y " ←/→ " else c
  let c := c.titleLeft a a.y (fieldTitle v)
  let c :=
    if v.description.isEmpty then c
    else c.titleRight a (a.bottom - 1) (" " ++ v.description ++ " ")
  c.writeParagraphs a.inside (fieldText v active)

/-! ## The form -/

/-- Draws the fields at some positions one under another; `rows` are left from row `y` on. -/
def drawFields (f : FormView) (x width : Nat) (c : Canvas) (y rows : Nat) :
    List Nat → Canvas
  | [] => c
  | i :: positions =>
    match f.field? i with
    | none => drawFields f x width c y rows positions
    | some v =>
      let height := min v.height.toNat rows
      let c := drawField c ⟨x, y, width, height⟩ v (i = f.focus)
      drawFields f x width c (y + height) (rows - height) positions

def drawForm (c : Canvas) (a : Area) (f : FormView) : Canvas :=
  let c := (c.frame a).titleLeft a a.y (" " ++ f.title ++ " ")
  let inside := a.inside
  let positions := f.visiblePositions
  if positions.isEmpty then
    c.writeLines inside [cut inside.width (Text.drawn "No fields to fill in".toList)]
  else
    let heights := positions.filterMap fun i => (f.field? i).map FieldView.height
    let active := (positions.idxOf? f.focus).getD 0
    let (start, stop) := visibleWindow heights active (UInt16.ofNat inside.height)
    drawFields f inside.x inside.width c inside.y inside.height
      ((positions.take stop).drop start)

/-! ## The last row -/

/-- What the keys do in a field. -/
def editHint (v : FieldView) : String :=
  match v.kind with
  | .dropdown _ => "←/→:choose"
  | .range .. => "←/→:adjust"
  | .toggle => "Space:flip"
  | .textarea => "type  Enter:newline"
  | .text | .number | .date | .time => "type"

/-- What the keys do. -/
def hints (f : FormView) : String :=
  let button := String.ofList (Text.lower f.button.toList)
  "Tab:next  " ++ ((f.active?.map editHint).getD "") ++ "  ^S:" ++ button

/-- What happened last. -/
def news (b : Board) : String :=
  match b.latestNotice?, b.saved with
  | some n, _ => " | " ++ n.message
  | none, some saved => " | Saved " ++ saved
  | none, none => ""

def quitHint : String := " Esc:quit "

def drawStatus (c : Canvas) (a : Area) (b : Board) : Canvas :=
  let status := Text.drawn (" " ++ hints b.form ++ news b).toList
  let quit := Text.drawn quitHint.toList
  let right : Area := ⟨a.right - quit.length, a.y, min quit.length a.width, a.height⟩
  (c.writeLines a [cut a.width status]).writeLines right [cut right.width quit]

/-! ## Errors -/

/-- The most cells that the box of an error is wide. -/
def dialogWidth : Nat := 60

/-- The rows that a text takes, roughly. -/
def roughHeight (width : Nat) (message : List (List Char)) : Nat :=
  (message.map fun line => max ((line.length + width - 1) / width) 1).sum

def drawDialog (c : Canvas) (screen : Area) (message : String) : Canvas :=
  let lines := Text.splitOn ['\n'] message.toList
  let width := min dialogWidth screen.width
  let height := min (roughHeight (max (width - 4) 1) lines + 6) screen.height
  let a : Area := ⟨(screen.width - width) / 2, (screen.height - height) / 2, width, height⟩
  let paragraphs :=
    ["Error".toList, []] ++ lines ++ [[], "Press Enter or Esc to dismiss".toList]
  ((c.clear a).frame a).writeParagraphs a.inside (paragraphs.map Text.drawn)

/-! ## All of it -/

/-- The screen of a given size. -/
def draw (b : Board) (width height : Nat) : Canvas :=
  let c := Canvas.blank width height
  let c := drawForm c ⟨0, 0, width, height - 1⟩ b.form
  let c := drawStatus c ⟨0, height - 1, width, min height 1⟩ b
  match b.error? with
  | some message => drawDialog c ⟨0, 0, width, height⟩ message
  | none => c

end Formulary.Display
