/-!
# Places in a text

A `Cursor` is a place in a text with its line and column. Lines end with a line feed, a carriage
return, both in that order, or one of three further characters.
-/

namespace Formulary.Yaml

/-! ## Characters -/

/-- A space or a tab. -/
def isGap (c : Char) : Bool := c = ' ' || c = '\t'

/-- A character that ends a line. -/
def isBreak (c : Char) : Bool :=
  c = '\n' || c = '\r' || c = '\u0085' || c = '\u2028' || c = '\u2029'

/-- The text stands at a gap, at the end of its line or at its end. -/
def atGap : List Char → Bool
  | [] => true
  | c :: _ => isGap c || isBreak c

/-- The text stands at the end of its line or at its end. -/
def atLineEnd : List Char → Bool
  | [] => true
  | c :: _ => isBreak c

/-- A character of names. -/
def isWord (c : Char) : Bool := c.isAlphanum || c = '_' || c = '-'

/-- A character that may stand in a text at all; controls may not. -/
def isPrintable (c : Char) : Bool :=
  let n := c.toNat
  n = 0x9 || n = 0xA || n = 0xD || (0x20 ≤ n && n ≤ 0x7E) || n = 0x85 ||
    (0xA0 ≤ n && n ≤ 0xD7FF) || (0xE000 ≤ n && n ≤ 0xFFFD) || 0x10000 ≤ n

/-! ## Places -/

/-- A place in a text. -/
structure Cursor where
  /-- The text from here on. -/
  rest : List Char
  /-- The number of characters before it. -/
  index : Nat := 0
  line : Nat := 0
  column : Nat := 0
  deriving DecidableEq

namespace Cursor

/-- The place some characters further on the line. -/
def skip (c : Cursor) (n : Nat) : Cursor :=
  { c with rest := c.rest.drop n, index := c.index + n, column := c.column + n }

/-- The place after the characters of a class. -/
def skipWhile (p : Char → Bool) (c : Cursor) : Cursor := c.skip (c.rest.takeWhile p).length

/-- The place at the start of the next line, `n` characters on. -/
def nextLine (c : Cursor) (n : Nat) : Cursor :=
  ⟨c.rest.drop n, c.index + n, c.line + 1, 0⟩

/-- The place after a line's end, with the text that the end stands for. Only the separators of
lines and paragraphs stand for themselves. -/
def takeBreak? (c : Cursor) : Option (List Char × Cursor) :=
  match c.rest with
  | '\r' :: '\n' :: _ => some (['\n'], c.nextLine 2)
  | x :: _ =>
    if x = '\u2028' || x = '\u2029' then some ([x], c.nextLine 1)
    else if isBreak x then some (['\n'], c.nextLine 1)
    else none
  | [] => none

theorem takeBreak?_shorter {c d : Cursor} {text : List Char}
    (h : c.takeBreak? = some (text, d)) : d.rest.length < c.rest.length := by
  unfold takeBreak? at h
  split at h
  · next hr =>
    cases h
    simp only [nextLine, hr, List.drop_succ_cons, List.drop_zero, List.length_cons]
    omega
  · next x r _ hr =>
    split at h
    · cases h; simp [nextLine, hr]
    · split at h
      · cases h; simp [nextLine, hr]
      · simp at h
  · simp at h

/-- The place after the end of the line, if it stands there. -/
def skipBreak (c : Cursor) : Cursor :=
  match c.takeBreak? with
  | some (_, d) => d
  | none => c

/-- The place after gaps and a comment, which must reach to the end of the line. -/
def skipComment (c : Cursor) : Cursor :=
  match c.rest with
  | '#' :: _ => c.skipWhile fun x => !isBreak x
  | _ => c

/-- A line at the place starts with three times `mark`, as the lines between documents do. -/
def atMark (mark : Char) (c : Cursor) : Bool :=
  c.column = 0 && match c.rest with
    | x :: y :: z :: r => x = mark && y = mark && z = mark && atGap r
    | _ => false

/-- A line between documents starts at the place. -/
def atDocumentMark (c : Cursor) : Bool := c.atMark '-' || c.atMark '.'

end Cursor

end Formulary.Yaml
