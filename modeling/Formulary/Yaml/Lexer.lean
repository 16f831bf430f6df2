import Formulary.Yaml.Block
import Formulary.Yaml.Tag
import Formulary.Yaml.Token

/-!
# Cutting YAML into tokens

A key shows itself only by the colon behind it. So the places where a key may start are remembered,
and when the colon comes, the token of the key, and of the mapping if it is a new one, are put in
there. Where indentation calls for a key, the colon must come.
-/

namespace Formulary.Yaml

/-- A place where a key may start. -/
structure KeyStart where
  /-- The number of tokens in front of it. -/
  before : Nat
  index : Nat
  line : Nat
  column : Nat
  /-- Only a key can start there. -/
  required : Bool
  deriving DecidableEq

/-- A text cut into tokens up to a place. -/
structure Scan where
  cursor : Cursor
  /-- The tokens found, the last one first. -/
  found : List Token := []
  /-- For each open block, the innermost first, the column after that in which it stands. -/
  levels : List Nat := []
  /-- Where the key that may be under way starts. -/
  key : Option KeyStart := none
  /-- The same for the text around each open flow collection, the innermost first. -/
  outerKeys : List (Option KeyStart) := []
  /-- A key may start at the cursor. -/
  keyAllowed : Bool := true

namespace Scan

/-- The cursor is in a flow collection. -/
def inFlow (s : Scan) : Bool := !s.outerKeys.isEmpty

/-- The first column that is deeper than the open block. -/
def level (s : Scan) : Nat := s.levels.head?.getD 0

/-- One more token, which takes `n` characters. -/
def emit (s : Scan) (n : Nat) (t : Token) : Scan :=
  { s with cursor := s.cursor.skip n, found := t :: s.found }

/-! ## Between tokens -/

/-- Skips blanks, comments and line ends. Tabs are no blanks where a key may start. -/
def skipToToken (s : Scan) : Scan :=
  let c := if s.cursor.index = 0 && s.cursor.rest.head? = some '\ufeff' then s.cursor.skip 1
    else s.cursor
  let tabs := s.inFlow || !s.keyAllowed
  let d := (c.skipWhile fun x => x = ' ' || (x = '\t' && tabs)).skipComment
  match _h : d.takeBreak? with
  | some (_, e) => skipToToken { s with cursor := e, keyAllowed := s.keyAllowed || !s.inFlow }
  | none => { s with cursor := d }
termination_by s.cursor.rest.length
decreasing_by
  have h₁ := Cursor.takeBreak?_shorter _h
  have h₂ (c : Cursor) (p : Char → Bool) : (c.skipWhile p).rest.length ≤ c.rest.length := by
    simp [Cursor.skipWhile, Cursor.skip]
  have h₃ (c : Cursor) : c.skipComment.rest.length ≤ c.rest.length := by
    unfold Cursor.skipComment
    split
    · exact h₂ ..
    · exact Nat.le_refl _
  have h₄ : c.rest.length ≤ s.cursor.rest.length := by
    simp only [c]
    split <;> simp [Cursor.skip]
  have h₅ := h₃ (c.skipWhile fun x => x = ' ' || (x = '\t' && tabs))
  have h₆ := h₂ c fun x => x = ' ' || (x = '\t' && tabs)
  simp only [d, tabs] at h₁ h₅ h₆ ⊢
  omega

/-! ## Places where a key may start -/

/-- What becomes of such a place at a cursor: a key must end on its line and within 1024
characters. -/
def fresh? (c : Cursor) : Option KeyStart → Option (Option KeyStart)
  | none => some none
  | some k =>
    if k.line < c.line || k.index + 1024 < c.index then (if k.required then none else some none)
    else some (some k)

/-- Gives up the places that are too far back. -/
def dropStale? (s : Scan) : Option Scan := do
  let key ← fresh? s.cursor s.key
  let outerKeys ← s.outerKeys.mapM (fresh? s.cursor)
  return { s with key := key, outerKeys := outerKeys }

/-- Gives up the place at hand. -/
def dropKey? (s : Scan) : Option Scan :=
  match s.key with
  | some k => if k.required then none else some { s with key := none }
  | none => some s

/-- Takes down that a key may start at the cursor, if one may. -/
def markKey? (s : Scan) : Option Scan :=
  if s.keyAllowed then
    s.dropKey?.map fun s =>
      let c := s.cursor
      let required := !s.inFlow && s.level = c.column + 1
      { s with key := some ⟨s.found.length, c.index, c.line, c.column, required⟩ }
  else some s

/-! ## Blocks -/

/-- Opens a block at the cursor, if it stands deeper than the open one. -/
def openBlock (s : Scan) (t : Token) : Scan :=
  if !s.inFlow && s.level ≤ s.cursor.column then
    { s with levels := (s.cursor.column + 1) :: s.levels, found := t :: s.found }
  else s

/-- The blocks that stay open where text starts in front of the column `bound`, and the tokens with
the ends of the others. -/
def closeLevels (bound : Nat) (found : List Token) : List Nat → List Nat × List Token
  | [] => ([], found)
  | n :: levels =>
    if bound < n then closeLevels bound (.blockEnd :: found) levels else (n :: levels, found)

/-- Closes the blocks that are deeper than `bound` columns. -/
def closeBlocks (bound : Nat) (s : Scan) : Scan :=
  if s.inFlow then s
  else
    let (levels, found) := closeLevels bound s.found s.levels
    { s with levels := levels, found := found }

/-! ## Structure -/

/-- A flow collection starts. -/
def openFlow? (s : Scan) (t : Token) : Option Scan :=
  s.markKey?.map fun s =>
    { s.emit 1 t with key := none, outerKeys := s.key :: s.outerKeys, keyAllowed := true }

/-- A flow collection ends. -/
def closeFlow? (s : Scan) (t : Token) : Option Scan :=
  s.dropKey?.map fun s =>
    let s := { s.emit 1 t with keyAllowed := false }
    match s.outerKeys with
    | key :: keys => { s with key := key, outerKeys := keys }
    | [] => s

def comma? (s : Scan) : Option Scan :=
  s.dropKey?.map fun s => { s.emit 1 .flowEntry with keyAllowed := true }

def dash? (s : Scan) : Option Scan :=
  if !s.inFlow && !s.keyAllowed then none
  else (s.openBlock .blockSequenceStart).dropKey?.map fun s =>
    { s.emit 1 .blockEntry with keyAllowed := true }

/-- A key that has a mark of its own. -/
def markedKey? (s : Scan) : Option Scan :=
  if !s.inFlow && !s.keyAllowed then none
  else (s.openBlock .blockMappingStart).dropKey?.map fun s =>
    { s.emit 1 .key with keyAllowed := !s.inFlow }

/-- The tokens with a key put in where it starts, and a mapping if it is the first key of one. -/
def insertKey (k : KeyStart) (opens : Bool) (found : List Token) : List Token :=
  let n := found.length - k.before
  found.take n ++ .key :: (if opens then [.blockMappingStart] else []) ++ found.drop n

/-- A colon, which makes what stands before it a key. -/
def value? (s : Scan) : Option Scan :=
  match s.key with
  | some k =>
    let opens := !s.inFlow && s.level ≤ k.column
    let s := { s with
      found := insertKey k opens s.found
      levels := if opens then (k.column + 1) :: s.levels else s.levels
      key := none
      keyAllowed := false }
    some (s.emit 1 .value)
  | none =>
    if !s.inFlow && !s.keyAllowed then none
    else
      let s := s.openBlock .blockMappingStart
      some { s.emit 1 .value with keyAllowed := !s.inFlow }

/-! ## Names and tags -/

/-- The text may go on so after a name. -/
def endsName : List Char → Bool
  | [] => true
  | c :: r => atGap (c :: r) || "?:,]\x7d%@\x60".toList.contains c

/-- A name behind its mark. -/
def name? (s : Scan) (token : List Char → Token) : Option Scan := do
  let s ← s.markKey?
  let name := (s.cursor.rest.drop 1).takeWhile isWord
  if name.isEmpty || !endsName (s.cursor.rest.drop (name.length + 1)) then none
  return { s.emit (name.length + 1) (token name) with keyAllowed := false }

def tag? (s : Scan) : Option Scan := do
  let s ← s.markKey?
  let (handle, suffix, n) ← readTag? s.cursor.rest
  let after := s.cursor.rest.drop n
  if atGap after || (s.inFlow && after.head? = some ',') then
    return { s.emit n (.tag handle suffix) with keyAllowed := false }
  else none

/-! ## Scalars -/

def quoted? (s : Scan) (quote : Char) : Option Scan := do
  let s ← s.markKey?
  let (text, c) ← readQuoted quote {} (s.cursor.skip 1)
  return { s with cursor := c, found := .scalar text false :: s.found, keyAllowed := false }

def plain? (s : Scan) : Option Scan := do
  let s ← s.markKey?
  let (text, broken, c) ← readPlain s.inFlow s.level {} s.cursor
  return { s with cursor := c, found := .scalar text true :: s.found, keyAllowed := broken }

def block? (s : Scan) (folded : Bool) : Option Scan := do
  let s ← s.dropKey?
  let (text, c) ← readBlock folded s.level (s.cursor.skip 1)
  return { s with cursor := c, found := .scalar text false :: s.found, keyAllowed := true }

/-- The text starts a plain scalar. -/
def startsPlain (flow : Bool) (c : Char) (after : List Char) : Bool :=
  if c = '-' then !atGap after
  else if c = '?' || c = ':' then !flow && !atGap after
  else !atGap [c] && !",[]\x7b\x7d#&*!|>'\"%@\x60".toList.contains c

/-! ## Directives and documents -/

/-- Leaves all blocks, as a line between documents does. -/
def leave? (s : Scan) : Option Scan :=
  (s.closeBlocks 0).dropKey?.map fun s => { s with keyAllowed := false }

def documentMark? (s : Scan) (t : Token) : Option Scan := s.leave?.map fun s => s.emit 3 t

/-- A part of a version has up to nine digits. -/
def readVersionPart? (s : List Char) : Option (Nat × Nat) :=
  let digits := s.takeWhile Char.isDigit
  if digits.isEmpty || 9 < digits.length then none
  else some (Nat.ofDigitChars 10 digits 0, digits.length)

/-- The version that a directive asks for is 1.1 or 1.2. -/
def readVersion? (c : Cursor) : Option Cursor := do
  let (major, n) ← readVersionPart? c.rest
  let d := c.skip n
  if d.rest.head? != some '.' then none
  let (minor, m) ← readVersionPart? (d.rest.drop 1)
  if major = 1 && (minor = 1 || minor = 2) then return d.skip (m + 1) else none

/-- The handle that a directive defines, and what it stands for. -/
def readTagDirective? (c : Cursor) : Option (Token × Cursor) := do
  let handle ← readHandle? c.rest
  let d := c.skip handle.length
  if !(isWholeHandle handle || handle = ['!']) || !(d.rest.head?.any isGap) then none
  let d := d.skipWhile isGap
  let (meaning, n) ← readTagText true d.rest
  let d := d.skip n
  if meaning.isEmpty || !atGap d.rest then none
  return (.tagDirective handle meaning, d)

def directive? (s : Scan) : Option Scan := do
  let s ← s.leave?
  let name := (s.cursor.rest.drop 1).takeWhile isWord
  let c := s.cursor.skip (name.length + 1)
  if !atGap c.rest then none
  let c := c.skipWhile isGap
  let (t, c) ←
    if name = "YAML".toList then (readVersion? c).map (Token.versionDirective, ·)
    else if name = "TAG".toList then readTagDirective? c
    else none
  let c := (c.skipWhile isGap).skipComment
  if !atLineEnd c.rest then none
  return { s with cursor := c.skipBreak, found := t :: s.found }

/-! ## All tokens -/

/-- Reads the token at the cursor. -/
def token? (s : Scan) : Option Scan :=
  let c := s.cursor
  match c.rest with
  | [] => none
  | x :: r =>
    if c.column = 0 && x = '%' then s.directive?
    else if c.atMark '-' then s.documentMark? .documentStart
    else if c.atMark '.' then s.documentMark? .documentEnd
    else if x = '[' then s.openFlow? .flowSequenceStart
    else if x = '\x7b' then s.openFlow? .flowMappingStart
    else if x = ']' then s.closeFlow? .flowSequenceEnd
    else if x = '\x7d' then s.closeFlow? .flowMappingEnd
    else if x = ',' then s.comma?
    else if x = '-' && atGap r then s.dash?
    else if x = '?' && (s.inFlow || atGap r) then s.markedKey?
    else if x = ':' && (s.inFlow || atGap r) then s.value?
    else if x = '*' then s.name? .alias
    else if x = '&' then s.name? .anchor
    else if x = '!' then s.tag?
    else if x = '|' && !s.inFlow then s.block? false
    else if x = '>' && !s.inFlow then s.block? true
    else if x = '\'' || x = '"' then s.quoted? x
    else if startsPlain s.inFlow x r then s.plain?
    else none

/-- The tokens of the rest of the text, behind those found. Every token takes a character. -/
def run? (s : Scan) : Option (List Token) :=
  match s.skipToToken.dropStale? with
  | none => none
  | some t =>
    if t.cursor.rest.isEmpty then
      ((t.closeBlocks 0).dropKey?).map fun t => t.found.reverse
    else
      match (t.closeBlocks (t.cursor.column + 1)).token? with
      | none => none
      | some u => if u.cursor.rest.length < s.cursor.rest.length then run? u else none
termination_by s.cursor.rest.length

end Scan

/-- The tokens of a text. -/
def Token.ofText? (s : List Char) : Option (List Token) :=
  if s.all isPrintable then Scan.run? { cursor := { rest := s } } else none

end Formulary.Yaml
