import Formulary.Text.Width

/-!
# Breaking lines

A line that is too long for its room is broken before a word, and inside a word that is itself too
long. The blanks at a break are dropped as far as the room before it reaches; all other blanks stay.
-/

namespace Formulary.Display

/-- What is drawn as one. -/
abbrev Cluster := List Char

/-- The number of cells of some clusters. -/
def cells (gs : List Cluster) : Nat := (gs.map Text.clusterWidth).sum

/-- A line may be broken here. The blank that does not break is none of these. -/
def isBreak (g : Cluster) : Bool := g = ['\u200b'] || (g.all Text.isBlank && g ≠ ['\u00a0'])

/-- A line while it is broken. -/
structure Wrapping where
  /-- The lines that are full. -/
  full : List (List Cluster) := []
  /-- The line under way. -/
  line : List Cluster := []
  /-- The blanks between the line and the word. -/
  blanks : List Cluster := []
  /-- The word under way. -/
  word : List Cluster := []
  /-- The last cluster belongs to a word. -/
  inWord : Bool := false

namespace Wrapping

/-- The word becomes part of the line. -/
def joined (w : Wrapping) : Wrapping :=
  { w with line := w.line ++ w.blanks ++ w.word, blanks := [], word := [] }

/-- The next cluster becomes part of the word, or one of the blanks. -/
def add (w : Wrapping) (g : Cluster) : Wrapping :=
  if isBreak g then { w with blanks := w.blanks ++ [g], inWord := false }
  else { w with word := w.word ++ [g], inWord := true }

/-- The blanks that a room does not hold. -/
def overhang (room : Nat) : List Cluster → List Cluster
  | [] => []
  | g :: gs =>
    let n := Text.clusterWidth g
    if room < n then g :: gs else overhang (room - n) gs

/-- The line is full, and a new one begins. -/
def broken (w : Wrapping) (limit : Nat) : Wrapping :=
  { w with
    full := w.full ++ [w.line]
    line := []
    blanks := overhang (limit - cells w.line) w.blanks }

/-- Takes the next cluster. One that is wider than the room is left out. -/
def step (limit : Nat) (w : Wrapping) (g : Cluster) : Wrapping :=
  let n := Text.clusterWidth g
  if limit < n then w
  else
    let wordEnds := w.inWord && isBreak g
    let overflows := w.line.isEmpty && limit < cells w.word + cells w.blanks + n
    let w := if wordEnds || overflows then w.joined else w
    let isFull := limit ≤ cells w.line ||
      (0 < n && limit ≤ cells w.line + cells w.blanks + cells w.word)
    if isFull then
      let w := w.broken limit
      if isBreak g && w.blanks.isEmpty then w else w.add g
    else w.add g

/-- The lines when nothing more comes. -/
def lines (w : Wrapping) : List (List Cluster) :=
  let onlyBlanks := w.line.isEmpty && w.word.isEmpty && !w.blanks.isEmpty
  let last := w.joined.line
  let all := w.full ++ (if onlyBlanks then [[]] else []) ++ (if last.isEmpty then [] else [last])
  if all.isEmpty then [[]] else all

end Wrapping

/-- The lines of a paragraph in a room of `limit` cells. -/
def wrap (limit : Nat) (paragraph : List Cluster) : List (List Cluster) :=
  if limit = 0 then [] else (paragraph.foldl (Wrapping.step limit) {}).lines

/-- The start of a line that has room in `limit` cells. A cluster that is wider is left out. -/
def cut (limit : Nat) (line : List Cluster) : List Cluster :=
  go limit (line.filter (Text.clusterWidth · ≤ limit))
where
  go (room : Nat) : List Cluster → List Cluster
    | [] => []
    | g :: gs =>
      let n := Text.clusterWidth g
      if room < n then [] else g :: go (room - n) gs

/-- The longest end of a line that has room in `limit` cells. -/
def cutStart (limit : Nat) (line : List Cluster) : List Cluster :=
  (cut.go limit line.reverse).reverse

end Formulary.Display
