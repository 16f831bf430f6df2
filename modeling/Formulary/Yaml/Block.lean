import Formulary.Yaml.Cursor

/-!
# Block scalars

A block scalar is the indented lines after its header. A literal block keeps its line ends; a
folded one joins lines by spaces, except beside lines that start with a blank.
-/

namespace Formulary.Yaml

/-- What becomes of the line ends at the end of a block. -/
inductive Chomp where
  | strip
  | clip
  | keep
  deriving DecidableEq

/-- What the header of a block says. -/
structure BlockHeader where
  chomp : Chomp := .clip
  /-- How much deeper than the text around it the block stands, if the header says so. -/
  deeper : Option Nat := none
  deriving DecidableEq

/-- What a plus or a minus in a header says. -/
def chomp? : Char → Option Chomp
  | '+' => some .keep
  | '-' => some .strip
  | _ => none

/-- The header at the start of a text, and its length. An indentation of zero is an error. -/
def readBlockHeader : List Char → Option (BlockHeader × Nat)
  | x :: r =>
    match chomp? x with
    | some chomp => match r with
      | d :: _ =>
        if d = '0' then none
        else if d.isDigit then some (⟨chomp, some (d.toNat - '0'.toNat)⟩, 2)
        else some ({ chomp := chomp }, 1)
      | [] => some ({ chomp := chomp }, 1)
    | none =>
      if x = '0' then none
      else if x.isDigit then
        let deeper := some (x.toNat - '0'.toNat)
        match r.head?.bind chomp? with
        | some chomp => some (⟨chomp, deeper⟩, 2)
        | none => some ({ deeper := deeper }, 1)
      else some ({}, 0)
  | [] => some ({}, 0)

/-- How many spaces of indentation stand at a place; at most as many as the indentation has. -/
def indentation (indent : Option Nat) (c : Cursor) : Nat :=
  let spaces := (c.rest.takeWhile (· = ' ')).length
  match indent with
  | some n => min spaces (n - c.column)
  | none => spaces

/-- Skips empty lines and the indentation of the next one: what the line ends stand for, the
deepest column that was reached, and the place. A tab must not stand in the indentation. -/
def skipEmptyLines (indent : Option Nat) (c : Cursor) : Option (List Char × Nat × Cursor) :=
  let d := c.skip (indentation indent c)
  let inIndentation := match indent with
    | some n => d.column < n
    | none => true
  if inIndentation && d.rest.head? = some '\t' then none
  else
    match _h : d.takeBreak? with
    | none => some ([], d.column, d)
    | some (text, e) =>
      (skipEmptyLines indent e).map fun (breaks, deepest, f) =>
        (text ++ breaks, max d.column deepest, f)
termination_by c.rest.length
decreasing_by
  have := Cursor.takeBreak?_shorter _h
  simp [d, Cursor.skip] at this
  omega

theorem skipEmptyLines_length_le {indent : Option Nat} {c d : Cursor} {breaks : List Char}
    {deepest : Nat} (h : skipEmptyLines indent c = some (breaks, deepest, d)) :
    d.rest.length ≤ c.rest.length := by
  fun_induction skipEmptyLines indent c generalizing breaks deepest d with
  | case1 => simp at h
  | case2 c d' => cases h; simp [d', Cursor.skip]
  | case3 c d' _ hi text e =>
    rename_i hb ih
    obtain ⟨⟨b, n, f⟩, hf, heq⟩ := Option.map_eq_some_iff.1 h
    cases heq
    have h₁ := ih hf
    have h₂ := Cursor.takeBreak?_shorter hb
    simp [d', Cursor.skip] at h₂
    omega

/-- The lines of a block, as far as they were read. -/
structure BlockText where
  text : List Char
  /-- What the end of the last line stands for. -/
  lastBreak : List Char
  /-- What the ends of the empty lines after it stand for. -/
  emptyBreaks : List Char

/-- What stands between two lines of a block. -/
def BlockText.between (folded : Bool) (before : BlockText) (blankAround : Bool) : List Char :=
  if folded && before.lastBreak.head? = some '\n' && !blankAround then
    if before.emptyBreaks.isEmpty then [' '] else before.emptyBreaks
  else before.lastBreak ++ before.emptyBreaks

/-- Reads the lines of a block on; `startsBlank` tells of the line before. -/
def readBlockLines (folded : Bool) (indent : Nat) (before : BlockText) (startsBlank : Bool)
    (c : Cursor) : Option (BlockText × Cursor) :=
  match _hr : c.rest with
  | [] => some (before, c)
  | x :: r =>
    if c.column = indent then
      let line := x :: r.takeWhile fun y => !isBreak y
      let text := before.text ++ before.between folded (startsBlank || isGap x) ++ line
      let d := c.skip line.length
      let lastBreak := (d.takeBreak?.map Prod.fst).getD []
      match _hs : skipEmptyLines (some indent) d.skipBreak with
      | none => none
      | some (breaks, _, e) =>
        readBlockLines folded indent ⟨text, lastBreak, breaks⟩ (isGap x) e
    else some (before, c)
termination_by c.rest.length
decreasing_by
  have h₁ := skipEmptyLines_length_le _hs
  have h₂ : d.skipBreak.rest.length ≤ d.rest.length := by
    unfold Cursor.skipBreak
    split
    · next h => exact Nat.le_of_lt (Cursor.takeBreak?_shorter h)
    · exact Nat.le_refl _
  have h₃ : d.rest.length < c.rest.length := by
    simp only [d, line, Cursor.skip, _hr, List.length_drop, List.length_cons]
    omega
  omega

/-- The text of a block with its end chomped. -/
def BlockText.chomped (b : BlockText) : Chomp → List Char
  | .strip => b.text
  | .clip => b.text ++ b.lastBreak
  | .keep => b.text ++ b.lastBreak ++ b.emptyBreaks

/-- Reads a block from behind the character that announces it. `level` is the column that text
deeper than the surrounding block must reach. -/
def readBlock (folded : Bool) (level : Nat) (c : Cursor) : Option (List Char × Cursor) := do
  let (header, length) ← readBlockHeader c.rest
  let d := ((c.skip length).skipWhile isGap).skipComment
  if !atLineEnd d.rest then none
  let given := header.deeper.map (level - 1 + ·)
  let (breaks, deepest, e) ← skipEmptyLines given d.skipBreak
  let indent := given.getD (max deepest (max level 1))
  let (block, f) ← readBlockLines folded indent ⟨[], [], breaks⟩ false e
  return (block.chomped header.chomp, f)

end Formulary.Yaml
