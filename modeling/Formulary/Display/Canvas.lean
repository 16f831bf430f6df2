import Formulary.Display.Wrap
import Formulary.Text.Lines

/-!
# Cells of text

A canvas has rows of cells; each cell shows a cluster of characters. What is drawn later lies over
what was drawn before, and nothing is drawn outside the canvas.
-/

namespace Formulary.Display

/-- A rectangle of cells. -/
structure Area where
  x : Nat
  y : Nat
  width : Nat
  height : Nat

namespace Area

/-- The column after the last one. -/
def right (a : Area) : Nat := a.x + a.width

/-- The row after the last one. -/
def bottom (a : Area) : Nat := a.y + a.height

def isEmpty (a : Area) : Bool := a.width = 0 || a.height = 0

/-- What a frame along the edge leaves. -/
def inside (a : Area) : Area := ⟨a.x + 1, a.y + 1, a.width - 2, a.height - 2⟩

end Area

structure Canvas where
  rows : List (List Cluster)

namespace Canvas

/-- The content of a cell on which nothing is drawn. -/
def space : Cluster := [' ']

def blank (width height : Nat) : Canvas := ⟨List.replicate height (List.replicate width space)⟩

/-- Changes the content of a cell. -/
def change (c : Canvas) (x y : Nat) (f : Cluster → Cluster) : Canvas :=
  ⟨c.rows.modify y (·.modify x f)⟩

def put (c : Canvas) (x y : Nat) (g : Cluster) : Canvas := c.change x y fun _ => g

/-- Empties the cells of an area. -/
def clear (c : Canvas) (a : Area) : Canvas :=
  let positions := (List.range a.height).flatMap fun j =>
    (List.range a.width).map fun i => (a.x + i, a.y + j)
  positions.foldl (fun c (x, y) => c.put x y space) c

/-- The text of each row, without the spaces at its end. -/
def texts (c : Canvas) : List String :=
  c.rows.map fun row => String.ofList (row.flatten.reverse.dropWhile (· = ' ')).reverse

/-! ## Text -/

/-- Draws clusters on a row, from a column as far as `stop`. A wide one takes its second cell too;
one without a cell joins the cell before it. -/
def write (c : Canvas) (x y stop : Nat) : List Cluster → Canvas
  | [] => c
  | g :: gs =>
    let n := Text.clusterWidth g
    if stop < x + n then c
    else if n = 0 then (c.change (x - 1) y (· ++ g)).write x y stop gs
    else
      let c := ((List.range (n - 1)).foldl (fun c i => c.put (x + 1 + i) y space) c).put x y g
      c.write (x + n) y stop gs

/-- Draws lines one under another from the top of an area. -/
def writeLines (c : Canvas) (a : Area) (lines : List (List Cluster)) : Canvas :=
  (lines.take a.height).zipIdx.foldl
    (fun c (line, i) =>
      c.write a.x (a.y + i) a.right (line.filter fun g => Text.clusterWidth g ≠ 0)) c

/-- Draws paragraphs, with their lines broken, from the top of an area. -/
def writeParagraphs (c : Canvas) (a : Area) (paragraphs : List (List Cluster)) : Canvas :=
  c.writeLines a (paragraphs.flatMap (wrap a.width))

/-! ## Frames -/

/-- Draws a line along the edge of an area. -/
def frame (c : Canvas) (a : Area) : Canvas :=
  if a.isEmpty then c
  else
    let (right, bottom) := (a.right - 1, a.bottom - 1)
    let columns := (List.range a.width).map (a.x + ·)
    let rows := (List.range a.height).map (a.y + ·)
    let c := rows.foldl (fun c y => (c.put a.x y ['│']).put right y ['│']) c
    let c := columns.foldl (fun c x => (c.put x a.y ['─']).put x bottom ['─']) c
    (((c.put right bottom ['┘']).put right a.y ['┐']).put a.x bottom ['└']).put a.x a.y ['┌']

/-- A title is one line: ends of lines in it count for nothing. -/
def titleText (s : String) : List Char := (Text.lines s.toList).flatten

/-- Draws a title on a row of a frame, from its left end. -/
def titleLeft (c : Canvas) (a : Area) (y : Nat) (title : String) : Canvas :=
  if a.isEmpty then c
  else c.write (a.x + 1) y (a.x + 1 + (a.width - 2)) (Text.drawn (titleText title))

/-- Draws a title on a row of a frame, to its right end. A title that is too long loses its
start. -/
def titleRight (c : Canvas) (a : Area) (y : Nat) (title : String) : Canvas :=
  if a.isEmpty then c
  else
    let room := a.width - 2
    let stop := a.x + 1 + room
    let gs := Text.clusters (titleText title)
    let kept := cutStart room gs
    let isDrawn (g : Cluster) : Bool := !g.any Text.isControl
    c.write (stop - cells kept) y stop (kept.filter isDrawn)

end Canvas

end Formulary.Display
