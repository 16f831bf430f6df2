import Formulary.Yaml.Cursor

/-!
# Texts of scalars

A scalar is plain, quoted or a block. In plain and quoted scalars a line end with the blanks around
it folds to one space, and of several line ends all but the first remain.
-/

namespace Formulary.Yaml

/-! ## Gaps -/

/-- Blanks and line ends between the words of a scalar. -/
structure Gap where
  /-- The blanks before the first line end. -/
  blanks : List Char := []
  /-- A line has ended. -/
  broken : Bool := false
  /-- What the first line end stands for; nothing if it was escaped. -/
  firstBreak : List Char := []
  /-- What the further line ends stand for. -/
  moreBreaks : List Char := []
  deriving DecidableEq

/-- What a gap stands for. -/
def Gap.text (g : Gap) : List Char :=
  if !g.broken then g.blanks
  else if g.firstBreak = ['\n'] then (if g.moreBreaks.isEmpty then [' '] else g.moreBreaks)
  else g.firstBreak ++ g.moreBreaks

/-- The gap with a blank more. Blanks at the start of a line do not count. -/
def Gap.addBlank (c : Char) (g : Gap) : Gap :=
  if g.broken then g else { g with blanks := g.blanks ++ [c] }

/-- The gap with a line end more. -/
def Gap.addBreak (text : List Char) (g : Gap) : Gap :=
  if g.broken then { g with moreBreaks := g.moreBreaks ++ text }
  else { g with broken := true, blanks := [], firstBreak := text }

/-- Reads a gap on. A tab must not stand where the indentation of `level` columns is wanted. -/
def readGap (level : Nat) (g : Gap) (c : Cursor) : Option (Gap × Cursor) :=
  match _h : c.takeBreak? with
  | some (text, d) => readGap level (g.addBreak text) d
  | none =>
    match _hr : c.rest with
    | x :: _ =>
      if isGap x then
        if g.broken && c.column < level && x = '\t' then none
        else readGap level (g.addBlank x) (c.skip 1)
      else some (g, c)
    | [] => some (g, c)
termination_by c.rest.length
decreasing_by
  · exact Cursor.takeBreak?_shorter _h
  · simp [Cursor.skip, _hr]

theorem readGap_length_le {level : Nat} {g g' : Gap} {c d : Cursor}
    (h : readGap level g c = some (g', d)) : d.rest.length ≤ c.rest.length := by
  fun_induction readGap level g c with
  | case1 =>
    rename_i hb ih
    exact Nat.le_trans (ih h) (Nat.le_of_lt (Cursor.takeBreak?_shorter hb))
  | case2 => simp at h
  | case3 =>
    rename_i hr _ _ ih
    have := ih h
    simp [Cursor.skip, hr] at this ⊢
    omega
  | case4 => cases h; exact Nat.le_refl _
  | case5 => cases h; exact Nat.le_refl _

/-! ## Escapes -/

/-- What a letter after a backslash stands for. -/
def escapeLetter? : Char → Option Char
  | '0' => some '\x00'
  | 'a' => some '\x07'
  | 'b' => some '\x08'
  | 't' | '\t' => some '\t'
  | 'n' => some '\n'
  | 'v' => some '\x0b'
  | 'f' => some '\x0c'
  | 'r' => some '\r'
  | 'e' => some '\x1b'
  | ' ' => some ' '
  | '"' => some '"'
  | '/' => some '/'
  | '\\' => some '\\'
  | 'N' => some '\u0085'
  | '_' => some '\u00a0'
  | 'L' => some '\u2028'
  | 'P' => some '\u2029'
  | _ => none

/-- How many digits follow a letter that announces a character's code. -/
def codeLength? : Char → Option Nat
  | 'x' => some 2
  | 'u' => some 4
  | 'U' => some 8
  | _ => none

/-- The value of a hexadecimal digit. -/
def hexValue? (c : Char) : Option Nat :=
  if c.isDigit then some (c.toNat - '0'.toNat)
  else if 'a' ≤ c && c ≤ 'f' then some (c.toNat - 'a'.toNat + 10)
  else if 'A' ≤ c && c ≤ 'F' then some (c.toNat - 'A'.toNat + 10)
  else none

/-- The number that hexadecimal digits spell. -/
def hexNumber? (digits : List Char) : Option Nat :=
  digits.foldlM (fun n c => (hexValue? c).map (n * 16 + ·)) 0

/-- The character with a code. -/
def character? (code : Nat) : Option Char :=
  if h : code.isValidChar then some (Char.ofNatAux code h) else none

/-- The escape after a backslash: its character and its length. -/
def readEscape? : List Char → Option (Char × Nat)
  | [] => none
  | c :: r =>
    match codeLength? c with
    | some n =>
      if r.length < n then none
      else ((hexNumber? (r.take n)).bind character?).map (·, n + 1)
    | none => (escapeLetter? c).map (·, 1)

/-! ## Quoted scalars -/

/-- Reads a quoted scalar on, up to and over its closing quote; `gap` is the gap under way. Lines
between documents must not occur in it. -/
def readQuoted (quote : Char) (gap : Gap) (c : Cursor) : Option (List Char × Cursor) :=
  match _hg : readGap 0 gap c with
  | none => none
  | some (gap, d) =>
    if d.atDocumentMark then none
    else
      match _hr : d.rest with
      | [] => none
      | x :: r =>
        if quote = '\'' && x = '\'' && r.head? = some '\'' then
          (readQuoted quote {} (d.skip 2)).map fun (text, e) => (gap.text ++ '\'' :: text, e)
        else if x = quote then some (gap.text, d.skip 1)
        else if quote = '"' && x = '\\' then
          match _hb : (d.skip 1).takeBreak? with
          | some (_, e) =>
            (readQuoted quote { broken := true } e).map fun (text, e) => (gap.text ++ text, e)
          | none =>
            match readEscape? r with
            | none => none
            | some (y, n) =>
              (readQuoted quote {} (d.skip (n + 1))).map fun (text, e) =>
                (gap.text ++ y :: text, e)
        else (readQuoted quote {} (d.skip 1)).map fun (text, e) => (gap.text ++ x :: text, e)
termination_by c.rest.length
decreasing_by
  all_goals
    have := readGap_length_le _hg
    simp only [_hr, List.length_cons] at this
  · simp [Cursor.skip, _hr]; omega
  · have := Cursor.takeBreak?_shorter _hb
    simp [Cursor.skip, _hr] at this
    omega
  · simp [Cursor.skip, _hr]; omega
  · simp [Cursor.skip, _hr]; omega

/-! ## Plain scalars -/

/-- A bracket, a brace or a comma, which structure flow collections. -/
def isFlowMark (c : Char) : Bool :=
  c = ',' || c = '[' || c = ']' || c = '\x7b' || c = '\x7d'

/-- The text cannot go on with a plain scalar. -/
def endsPlain (flow : Bool) : List Char → Bool
  | [] => true
  | c :: r => (c = ':' && atGap r) || (flow && isFlowMark c)

/-- The text has a colon that nobody can tell the meaning of. -/
def hasDoubtfulColon : List Char → Bool
  | ':' :: c :: _ => isFlowMark c || c = '?'
  | _ => false

/-- Reads a plain scalar on; `gap` is the gap under way. Answers with the text and with whether the
gap behind it, which is skipped, ends a line. -/
def readPlain (flow : Bool) (level : Nat) (gap : Gap) (c : Cursor) :
    Option (List Char × Bool × Cursor) :=
  match _hg : readGap level gap c with
  | none => none
  | some (gap, d) =>
    if gap.broken && !flow && d.column < level then some ([], gap.broken, d)
    else if d.atDocumentMark then some ([], gap.broken, d)
    else
      match _hr : d.rest with
      | [] => some ([], gap.broken, d)
      | x :: _ =>
        if x = '#' && (gap.broken || !gap.blanks.isEmpty) then some ([], gap.broken, d)
        else if flow && hasDoubtfulColon d.rest then none
        else if endsPlain flow d.rest then some ([], gap.broken, d)
        else (readPlain flow level {} (d.skip 1)).map fun (text, broken, e) =>
          (gap.text ++ x :: text, broken, e)
termination_by c.rest.length
decreasing_by
  have := readGap_length_le _hg
  simp [Cursor.skip, _hr] at this ⊢
  omega

end Formulary.Yaml
