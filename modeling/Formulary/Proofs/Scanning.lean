import Formulary.Proofs.Folding
import Formulary.Yaml.Lexer

/-!
# Cutting lines of front matter into tokens

A line with a name, a colon and an escaped text in quotes is cut into four tokens, from any state
that the scan is in at the start of such a line (`run?_entry`). The name must be short enough to be
recognized as a key, and the quoted text must be readable.

* `run?_entries`: the tokens of such lines one under the other.
-/

namespace Formulary.Yaml

/-- A letter and then letters, digits and dashes. -/
def IsName (name : List Char) : Prop :=
  ∃ c t, name = c :: t ∧ c.isAlpha = true ∧ ∀ x ∈ t, x.isAlphanum = true ∨ x = '-'

instance : DecidablePred IsName
  | [] => isFalse fun ⟨_, _, absurd, _⟩ => by cases absurd
  | c :: t => decidable_of_iff (c.isAlpha = true ∧ ∀ x ∈ t, x.isAlphanum = true ∨ x = '-')
      ⟨fun parts => ⟨c, t, rfl, parts⟩, fun ⟨_, _, same, parts⟩ => by cases same; exact parts⟩

/-- A character of names as front matter has them. -/
def isNameChar (c : Char) : Bool := c.isAlphanum || c = '-'

variable {c d : Cursor} {name t : List Char} {x : Char}

/-! ## Characters of names -/

/-- Where letters are among all characters. -/
theorem toNat_of_isAlpha (letter : x.isAlpha = true) :
    65 ≤ x.toNat ∧ x.toNat ≤ 90 ∨ 97 ≤ x.toNat ∧ x.toNat ≤ 122 := by
  rcases Bool.or_eq_true_iff.1 (show (x.isUpper || x.isLower) = true from letter) with upper | lower
  · obtain ⟨low, high⟩ : x.val ≥ 'A'.val ∧ x.val ≤ 'Z'.val := of_decide_eq_true upper
    exact Or.inl ⟨UInt32.le_iff_toNat_le.1 low, UInt32.le_iff_toNat_le.1 high⟩
  · obtain ⟨low, high⟩ := Bool.and_eq_true_iff.1
      (show (decide (x.val ≥ 'a'.val) && decide (x.val ≤ 'z'.val)) = true from lower)
    exact Or.inr ⟨UInt32.le_iff_toNat_le.1 (of_decide_eq_true low),
      UInt32.le_iff_toNat_le.1 (of_decide_eq_true high)⟩

theorem toNat_of_isDigit (digit : x.isDigit = true) : 48 ≤ x.toNat ∧ x.toNat ≤ 57 := by
  obtain ⟨low, high⟩ := Bool.and_eq_true_iff.1
    (show (decide (x.val ≥ '0'.val) && decide (x.val ≤ '9'.val)) = true from digit)
  exact ⟨UInt32.le_iff_toNat_le.1 (of_decide_eq_true low),
    UInt32.le_iff_toNat_le.1 (of_decide_eq_true high)⟩

/-- Where the characters of names are among all characters. -/
theorem toNat_of_isNameChar (part : isNameChar x = true) : 45 ≤ x.toNat ∧ x.toNat ≤ 122 := by
  rcases Bool.or_eq_true_iff.1 part with word | dash
  · rcases Bool.or_eq_true_iff.1 (show (x.isAlpha || x.isDigit) = true from word) with
      letter | digit
    · have bounds := toNat_of_isAlpha letter
      omega
    · have bounds := toNat_of_isDigit digit
      omega
  · rw [of_decide_eq_true dash]
    decide

theorem ne_of_isAlpha {y : Char} (letter : x.isAlpha = true) (other : y.isAlpha = false) :
    x ≠ y := by
  rintro rfl
  cases letter.symm.trans other

theorem ne_of_isNameChar {y : Char} (part : isNameChar x = true) (other : isNameChar y = false) :
    x ≠ y := by
  rintro rfl
  cases part.symm.trans other

theorem isNameChar_of_isAlpha (letter : x.isAlpha = true) : isNameChar x = true := by
  rw [isNameChar, Char.isAlphanum, letter]
  rfl

theorem IsName.forall_isNameChar (named : IsName name) : ∀ x ∈ name, isNameChar x = true := by
  obtain ⟨c, t, rfl, letter, more⟩ := named
  refine List.forall_mem_cons.2 ⟨isNameChar_of_isAlpha letter, fun x member => ?_⟩
  simpa [isNameChar] using more x member

theorem isGap_eq_false_of_isNameChar (part : isNameChar x = true) : isGap x = false := by
  have space := ne_of_isNameChar part (y := ' ') rfl
  have tab := ne_of_isNameChar part (y := '\t') rfl
  simp [isGap, space, tab]

theorem isBreak_eq_false_of_isNameChar (part : isNameChar x = true) : isBreak x = false := by
  have feed := ne_of_isNameChar part (y := '\n') rfl
  have back := ne_of_isNameChar part (y := '\r') rfl
  have next := ne_of_isNameChar part (y := '\u0085') rfl
  have lines := ne_of_isNameChar part (y := '\u2028') rfl
  have paragraphs := ne_of_isNameChar part (y := '\u2029') rfl
  simp [isBreak, feed, back, next, lines, paragraphs]

/-! ## Places -/

theorem Cursor.skip_skip (c : Cursor) (m n : Nat) : (c.skip m).skip n = c.skip (m + n) := by
  simp [Cursor.skip, Nat.add_assoc]

theorem Cursor.atDocumentMark_of_column (inside : c.column ≠ 0) : c.atDocumentMark = false := by
  simp [Cursor.atDocumentMark, Cursor.atMark, inside]

theorem Cursor.atMark_of_ne {mark : Char} (rest : c.rest = x :: t) (other : x ≠ mark) :
    c.atMark mark = false := by
  rw [Bool.eq_false_iff]
  intro marks
  obtain ⟨-, t', shape, -⟩ := Cursor.atMark_iff.1 marks
  cases rest.symm.trans shape
  exact other rfl

/-! ## Names -/

/-- A plain scalar ends in front of a colon and a space. -/
theorem readPlain_name {level : Nat} (parts : ∀ x ∈ name, isNameChar x = true)
    (rest : c.rest = name ++ ':' :: ' ' :: t) (inside : c.atDocumentMark = false) :
    readPlain false level {} c = some (name, false, c.skip name.length) := by
  induction name generalizing c with
  | nil =>
    rw [readPlain]
    split
    · rename_i none
      cases (readGap_over rest rfl rfl).symm.trans none
    · rename_i here
      cases (readGap_over rest rfl rfl).symm.trans here
      rw [if_neg (by simp), if_neg (by rw [inside]; exact Bool.false_ne_true)]
      split
      · rfl
      · rename_i shape
        cases rest.symm.trans shape
        rw [if_neg (by simp), if_neg (by simp), if_pos (by simp [rest, endsPlain, atGap, isGap])]
        rfl
  | cons x name ih =>
    obtain ⟨part, parts⟩ := List.forall_mem_cons.1 parts
    have gap : readGap level {} c = some ({}, c) :=
      readGap_over rest (isGap_eq_false_of_isNameChar part) (isBreak_eq_false_of_isNameChar part)
    have column : (c.skip 1).column ≠ 0 := Nat.succ_ne_zero _
    have behind : (c.skip 1).rest = name ++ ':' :: ' ' :: t := by
      rw [Cursor.skip, rest]
      rfl
    have later := ih parts behind (Cursor.atDocumentMark_of_column column)
    rw [readPlain]
    split
    · rename_i none
      cases gap.symm.trans none
    · rename_i here
      cases gap.symm.trans here
      rw [if_neg (by simp), if_neg (by rw [inside]; exact Bool.false_ne_true)]
      split
      · rename_i shape
        cases rest.symm.trans shape
      · rename_i shape
        cases rest.symm.trans shape
        have hash := ne_of_isNameChar part (y := '#') rfl
        have colon := ne_of_isNameChar part (y := ':') rfl
        rw [if_neg (by simp [hash]), if_neg (by simp), if_neg (by simp [rest, endsPlain, colon]),
          later, Cursor.skip_skip, List.length_cons, Nat.add_comm 1]
        rfl

namespace Scan

variable {s : Scan}

/-! ## Between tokens -/

/-- The place behind blanks and a comment. -/
def landing (s : Scan) : Cursor :=
  ((if s.cursor.index = 0 && s.cursor.rest.head? = some '\ufeff' then s.cursor.skip 1
    else s.cursor).skipWhile fun x =>
      x = ' ' || (x = '\t' && (s.inFlow || !s.keyAllowed))).skipComment

theorem skipToToken_inside (inside : s.landing.takeBreak? = none) :
    s.skipToToken = { s with cursor := s.landing } := by
  rw [skipToToken]
  split
  · rename_i broken
    cases inside.symm.trans broken
  · rfl

theorem skipToToken_break {text : List Char} (broken : s.landing.takeBreak? = some (text, d)) :
    s.skipToToken =
      skipToToken { s with cursor := d, keyAllowed := s.keyAllowed || !s.inFlow } := by
  rw [skipToToken]
  split
  · rename_i here
    cases broken.symm.trans here
    rfl
  · rename_i none
    cases broken.symm.trans none

theorem skipComment_of_ne (rest : c.rest = x :: t) (comment : x ≠ '#') : c.skipComment = c := by
  unfold Cursor.skipComment
  split
  · rename_i shape
    cases rest.symm.trans shape
    exact absurd rfl comment
  · rfl

/-- Where a token starts nothing is skipped. -/
theorem landing_here (rest : s.cursor.rest = x :: t) (text : isGap x = false) (comment : x ≠ '#')
    (mark : x ≠ '\ufeff') : s.landing = s.cursor := by
  have blank (p : Bool) : (decide (x = ' ') || (decide (x = '\t') && p)) = false := by
    have both : x ≠ ' ' ∧ x ≠ '\t' := by
      simpa [isGap] using text
    simp [both]
  have none : s.cursor.skipWhile (fun x => x = ' ' || (x = '\t' && (s.inFlow || !s.keyAllowed))) =
      s.cursor := by
    rw [Cursor.skipWhile, rest, List.takeWhile_cons_of_neg (by simp only [blank]; simp)]
    rfl
  rw [landing, if_neg (by simp [rest, mark]), none, skipComment_of_ne rest comment]

/-- A space in front of a token is skipped. -/
theorem landing_space (rest : s.cursor.rest = ' ' :: x :: t) (text : isGap x = false)
    (comment : x ≠ '#') : s.landing = s.cursor.skip 1 := by
  have blank (p : Bool) : (decide (x = ' ') || (decide (x = '\t') && p)) = false := by
    have both : x ≠ ' ' ∧ x ≠ '\t' := by
      simpa [isGap] using text
    simp [both]
  have one : s.cursor.skipWhile (fun x => x = ' ' || (x = '\t' && (s.inFlow || !s.keyAllowed))) =
      s.cursor.skip 1 := by
    rw [Cursor.skipWhile, rest, List.takeWhile_cons_of_pos (by simp),
      List.takeWhile_cons_of_neg (by simp only [blank]; simp)]
    rfl
  have behind : (s.cursor.skip 1).rest = x :: t := by
    rw [Cursor.skip, rest]
    rfl
  rw [landing, if_neg (by simp [rest]), one, skipComment_of_ne behind comment]

theorem skipToToken_here (rest : s.cursor.rest = x :: t) (text : isGap x = false)
    (inside : isBreak x = false) (comment : x ≠ '#') (mark : x ≠ '\ufeff') :
    s.skipToToken = s := by
  have landed := landing_here rest text comment mark
  have unbroken : s.landing.takeBreak? = none := by
    rw [landed]
    refine Cursor.takeBreak?_of_not_isBreak ?_
    rw [rest]
    exact fun ends => by cases inside.symm.trans ends
  rw [skipToToken_inside unbroken, landed]

/-! ## Steps of the scan -/

theorem run?_token {u v : Scan} (ready : s.skipToToken.dropStale? = some u)
    (more : u.cursor.rest ≠ []) (token : (u.closeBlocks (u.cursor.column + 1)).token? = some v)
    (shorter : v.cursor.rest.length < s.cursor.rest.length) : s.run? = v.run? := by
  rw [run?]
  simp only [ready, token]
  rw [if_neg (by simpa using more), if_pos shorter]

theorem run?_stuck {u : Scan} (ready : s.skipToToken.dropStale? = some u)
    (more : u.cursor.rest ≠ []) (token : (u.closeBlocks (u.cursor.column + 1)).token? = none) :
    s.run? = none := by
  rw [run?]
  simp only [ready, token]
  rw [if_neg (by simpa using more)]

theorem run?_stale (stale : s.skipToToken.dropStale? = none) : s.run? = none := by
  rw [run?]
  simp only [stale]

theorem run?_end {u : Scan} (ready : s.skipToToken.dropStale? = some u)
    (ended : u.cursor.rest = []) :
    s.run? = (u.closeBlocks 0).dropKey?.map fun v => v.found.reverse := by
  rw [run?]
  simp only [ready]
  rw [if_pos (by simp [ended])]

/-! ## Tokens of a line -/

theorem token?_name (rest : s.cursor.rest = x :: t) (letter : x.isAlpha = true) :
    s.token? = s.plain? := by
  have other (y : Char) (sign : y.isAlpha = false) : x ≠ y := ne_of_isAlpha letter sign
  have plain : startsPlain s.inFlow x t = true := by
    have text := isGap_eq_false_of_isNameChar (isNameChar_of_isAlpha letter)
    have inside := isBreak_eq_false_of_isNameChar (isNameChar_of_isAlpha letter)
    have marks : ",[]\x7b\x7d#&*!|>'\"%@\x60".toList.contains x = false := by
      rw [Bool.eq_false_iff]
      intro among
      have signs : ∀ y ∈ ",[]\x7b\x7d#&*!|>'\"%@\x60".toList, y.isAlpha = false := by
        decide
      exact other x (signs x (List.contains_iff_mem.1 among)) rfl
    rw [startsPlain, if_neg (other '-' rfl), if_neg (by simp [other '?' rfl, other ':' rfl]), marks]
    simp [atGap, text, inside]
  have unmarked (mark : Char) (sign : mark.isAlpha = false) : s.cursor.atMark mark = false :=
    Cursor.atMark_of_ne rest (other mark sign)
  unfold token?
  simp [rest, plain, unmarked '-' rfl, unmarked '.' rfl, other '%' rfl, other '[' rfl,
    other '\x7b' rfl, other ']' rfl, other '\x7d' rfl, other ',' rfl, other '-' rfl, other '?' rfl,
    other ':' rfl, other '*' rfl, other '&' rfl, other '!' rfl, other '|' rfl, other '>' rfl,
    other '\'' rfl, other '"' rfl]

theorem token?_colon (rest : s.cursor.rest = ':' :: ' ' :: t) : s.token? = s.value? := by
  have unmarked (mark : Char) (sign : ':' ≠ mark) : s.cursor.atMark mark = false :=
    Cursor.atMark_of_ne rest sign
  unfold token?
  simp [rest, unmarked '-' (by decide), unmarked '.' (by decide), atGap, isGap]

theorem token?_quote (rest : s.cursor.rest = '"' :: t) : s.token? = s.quoted? '"' := by
  have unmarked (mark : Char) (sign : '"' ≠ mark) : s.cursor.atMark mark = false :=
    Cursor.atMark_of_ne rest sign
  unfold token?
  simp [rest, unmarked '-' (by decide), unmarked '.' (by decide)]

/-! ## Lines -/

variable {found : List Token} {levels : List Nat}

/-- The token in front of the first key. -/
def opening (levels : List Nat) : List Token := if levels = [] then [.blockMappingStart] else []

/-- Blocks stay open where text starts in the first column, and also behind it. -/
theorem closeBlocks_eq (open? : levels = [] ∨ levels = [1]) (bound : Nat) (key : Option KeyStart)
    (allowed : Bool) :
    closeBlocks (bound + 1) ⟨c, found, levels, key, [], allowed⟩ =
      ⟨c, found, levels, key, [], allowed⟩ := by
  have stays : closeLevels (bound + 1) found levels = (levels, found) := by
    rcases open? with rfl | rfl
    · rfl
    · rw [closeLevels, if_neg (by omega)]
  simp only [closeBlocks, inFlow, stays, List.isEmpty_nil, Bool.not_true, Bool.false_eq_true,
    if_false]

/-- A name is cut off, as a key that is still to be confirmed. -/
theorem run?_name (ready : s.skipToToken = ⟨c, found, levels, none, [], true⟩)
    (column : c.column = 0) (open? : levels = [] ∨ levels = [1]) (named : IsName name)
    (rest : c.rest = name ++ ':' :: ' ' :: t) (fewer : c.rest.length ≤ s.cursor.rest.length) :
    s.run? = run? ⟨c.skip name.length, .scalar name true :: found, levels,
      some ⟨found.length, c.index, c.line, 0, levels = [1]⟩, [], false⟩ := by
  have parts := named.forall_isNameChar
  obtain ⟨x, more, rfl, letter, -⟩ := named
  have inside : c.atDocumentMark = false := by
    rw [Cursor.atDocumentMark, Cursor.atMark_of_ne rest (ne_of_isAlpha letter rfl),
      Cursor.atMark_of_ne rest (ne_of_isAlpha letter rfl)]
    rfl
  have marked : (⟨c, found, levels, none, [], true⟩ : Scan).markKey? =
      some ⟨c, found, levels, some ⟨found.length, c.index, c.line, 0, levels = [1]⟩, [], true⟩ := by
    have required : (decide (levels.head?.getD 0 = 0 + 1)) = decide (levels = [1]) := by
      rcases open? with rfl | rfl
      · rfl
      · rfl
    have marks : (⟨c, found, levels, none, [], true⟩ : Scan).markKey? =
        some ⟨c, found, levels, some ⟨found.length, c.index, c.line, c.column,
          levels.head?.getD 0 = c.column + 1⟩, [], true⟩ := rfl
    rw [marks, column, required]
  refine run?_token (u := ⟨c, found, levels, none, [], true⟩) ?_ ?_ ?_ ?_
  · rw [ready]
    rfl
  · rw [rest]
    exact List.cons_ne_nil _ _
  · rw [closeBlocks_eq open?, token?_name rest letter, plain?, marked]
    show (readPlain false (level ⟨c, found, levels, _, [], true⟩) {} c).bind _ = _
    rw [readPlain_name parts rest inside]
    rfl
  · rw [Cursor.skip, List.length_drop]
    have some : 0 < c.rest.length := by
      rw [rest]
      exact Nat.succ_pos _
    rw [List.length_cons]
    omega

/-- The colon behind a name confirms the key, if that is short enough. -/
theorem run?_colon {k : KeyStart} (here : k.column = 0) (line : k.line = c.line)
    (required : k.required = decide (levels = [1])) (before : k.before = found.length)
    (open? : levels = [] ∨ levels = [1]) (rest : c.rest = ':' :: ' ' :: t) :
    run? ⟨c, .scalar name true :: found, levels, some k, [], false⟩ =
      if c.index ≤ k.index + 1024 then
        run? ⟨c.skip 1, .value :: .scalar name true :: .key :: opening levels ++ found, [1], none,
          [], false⟩
      else none := by
  have skipped (key : Option KeyStart) :
      skipToToken ⟨c, .scalar name true :: found, levels, key, [], false⟩ =
        ⟨c, .scalar name true :: found, levels, key, [], false⟩ :=
    skipToToken_here rest rfl rfl (by decide) (by decide)
  have more : c.rest ≠ [] := by
    rw [rest]
    exact List.cons_ne_nil _ _
  have shorter : (c.skip 1).rest.length < c.rest.length := by
    rw [Cursor.skip, rest]
    exact Nat.lt_succ_self _
  split
  · rename_i near
    have fresh : dropStale? ⟨c, .scalar name true :: found, levels, some k, [], false⟩ =
        some ⟨c, .scalar name true :: found, levels, some k, [], false⟩ := by
      have kept : fresh? c (some k) = some (some k) := by
        rw [fresh?, if_neg (by simp [line]; omega)]
      rw [dropStale?, kept]
      rfl
    refine run?_token (by rw [skipped, fresh]) more ?_ shorter
    rw [closeBlocks_eq open?, token?_colon rest]
    rcases open? with rfl | rfl
    · simp [value?, inFlow, level, here, insertKey, before, emit, opening]
    · simp [value?, inFlow, level, here, insertKey, before, emit, opening]
  · rename_i far
    have late : (k.line < c.line || k.index + 1024 < c.index) = true := by
      simp
      omega
    rcases open? with rfl | rfl
    · -- The key of a new mapping is given up, and then the colon has nothing in front of it.
      have dropped : dropStale? ⟨c, .scalar name true :: found, [], some k, [], false⟩ =
          some ⟨c, .scalar name true :: found, [], none, [], false⟩ := by
        have gone : fresh? c (some k) = some none := by
          rw [fresh?, if_pos late, required, if_neg (by simp)]
        rw [dropStale?, gone]
        rfl
      refine run?_stuck (by rw [skipped, dropped]) more ?_
      rw [closeBlocks_eq (Or.inl rfl), token?_colon rest]
      rfl
    · have stale : dropStale? ⟨c, .scalar name true :: found, [1], some k, [], false⟩ = none := by
        have refused : fresh? c (some k) = none := by
          rw [fresh?, if_pos late, required, if_pos (by simp)]
        rw [dropStale?, refused]
        rfl
      exact run?_stale (by rw [skipped, stale])

/-- Behind the colon comes the escaped text in quotes. -/
theorem run?_value {v r : List Char} (rest : c.rest = ' ' :: '"' :: quotedRest v r) :
    ∃ d : Cursor, d.rest = r ∧ run? ⟨c, found, [1], none, [], false⟩ =
      (reread? {} false v).bind fun w =>
        run? ⟨d, .scalar w false :: found, [1], none, [], false⟩ := by
  have landed : landing ⟨c, found, [1], none, [], false⟩ = c.skip 1 :=
    landing_space rest rfl (by decide)
  have behind : (c.skip 1).rest = '"' :: quotedRest v r := by
    rw [Cursor.skip, rest]
    rfl
  have within : (c.skip 2).rest = quotedRest v r := by
    rw [Cursor.skip, rest]
    rfl
  have column : (decide ((c.skip 2).column = 0)) = false := by
    simp [Cursor.skip]
  obtain ⟨d, after, read⟩ := readQuoted_escaped v r (g := {}) rfl within
  rw [column] at read
  have ready : dropStale? (skipToToken ⟨c, found, [1], none, [], false⟩) =
      some ⟨c.skip 1, found, [1], none, [], false⟩ := by
    have unbroken : (landing ⟨c, found, [1], none, [], false⟩).takeBreak? = none := by
      rw [landed]
      refine Cursor.takeBreak?_of_not_isBreak ?_
      rw [behind]
      exact fun absurd => by cases absurd
    rw [skipToToken_inside unbroken, landed]
    rfl
  have more : (c.skip 1).rest ≠ [] := by
    rw [behind]
    exact List.cons_ne_nil _ _
  have quoted : token? ⟨c.skip 1, found, [1], none, [], false⟩ =
      (readQuoted '"' {} (c.skip 2)).bind fun wd =>
        some ⟨wd.2, .scalar wd.1 false :: found, [1], none, [], false⟩ := by
    have twice : c.skip 2 = (c.skip 1).skip 1 := (Cursor.skip_skip c 1 1).symm
    rw [token?_quote behind, twice]
    rfl
  refine ⟨d, after, ?_⟩
  rw [read] at quoted
  cases out : reread? {} false v with
  | none =>
    refine run?_stuck ready more ?_
    rw [closeBlocks_eq (Or.inr rfl), quoted, out]
    rfl
  | some w =>
    refine run?_token ready more ?_ ?_
    · rw [closeBlocks_eq (Or.inr rfl), quoted, out]
      rfl
    · rw [after, rest, quotedRest]
      simp only [List.length_cons, List.length_append]
      omega

/-- What a line with a name and a text is read as, if the name is short enough for a key. -/
def readPair? (e : List Char × List Char) : Option (List Char × List Char) :=
  if e.1.length ≤ 1024 then (reread? {} false e.2).map (e.1, ·) else none

/-- The tokens of a line. -/
def entryTokens (e : List Char × List Char) : List Token :=
  [.key, .scalar e.1 true, .value, .scalar e.2 false]

/-- The text of a line, and what is behind it. -/
def entryText (e : List Char × List Char) (r : List Char) : List Char :=
  e.1 ++ ':' :: ' ' :: '"' :: quotedRest e.2 r

/-- **One line.** From the start of a line the scan comes to the end of it with its tokens. -/
theorem run?_entry {e : List Char × List Char} {r : List Char}
    (ready : s.skipToToken = ⟨c, found, levels, none, [], true⟩) (column : c.column = 0)
    (open? : levels = [] ∨ levels = [1]) (named : IsName e.1) (rest : c.rest = entryText e r)
    (fewer : c.rest.length ≤ s.cursor.rest.length) :
    ∃ d : Cursor, d.rest = r ∧ s.run? = (readPair? e).bind fun e =>
      run? ⟨d, (entryTokens e).reverse ++ opening levels ++ found, [1], none, [], false⟩ := by
  have behind : (c.skip e.1.length).rest = ':' :: ' ' :: '"' :: quotedRest e.2 r := by
    rw [Cursor.skip, rest, entryText]
    exact List.drop_left
  have value : ((c.skip e.1.length).skip 1).rest = ' ' :: '"' :: quotedRest e.2 r := by
    rw [Cursor.skip, behind]
    rfl
  obtain ⟨d, after, read⟩ :=
    @run?_value _ (.value :: .scalar e.1 true :: .key :: opening levels ++ found) _ _ value
  refine ⟨d, after, ?_⟩
  rw [run?_name ready column open? named rest fewer, run?_colon rfl rfl rfl rfl open? behind, read,
    readPair?]
  have short : (c.skip e.1.length).index ≤ c.index + 1024 ↔ e.1.length ≤ 1024 := by
    have index : (c.skip e.1.length).index = c.index + e.1.length := rfl
    omega
  simp only [short]
  split
  · cases reread? {} false e.2 with
    | none => rfl
    | some w => rfl
  · rfl

theorem entryText_append (e : List Char × List Char) (r : List Char) :
    entryText e r = entryText e [] ++ r := by
  simp [entryText, quotedRest]

/-- At the end of the text the mapping is closed. -/
theorem run?_over (rest : c.rest = []) :
    run? ⟨c, found, [1], none, [], false⟩ = some (found.reverse ++ [.blockEnd]) := by
  have here (p : Char → Bool) : c.skipWhile p = c := by
    rw [Cursor.skipWhile, rest]
    rfl
  have landed : landing ⟨c, found, [1], none, [], false⟩ = c := by
    rw [landing, if_neg (by simp [rest]), here, Cursor.skipComment, rest]
  have unbroken : c.takeBreak? = none := by
    rw [Cursor.takeBreak?, rest]
  have ready : dropStale? (skipToToken ⟨c, found, [1], none, [], false⟩) =
      some ⟨c, found, [1], none, [], false⟩ := by
    rw [skipToToken_inside (by rw [landed, unbroken]), landed]
    rfl
  rw [run?_end ready rest]
  show some (List.reverse (.blockEnd :: found)) = _
  rw [List.reverse_cons]

/-- At the end of a line the scan goes on at the start of the next one. -/
theorem skipToToken_newline {e : List Char × List Char} {r : List Char} (named : IsName e.1)
    (rest : c.rest = '\n' :: entryText e r) :
    skipToToken ⟨c, found, levels, none, [], false⟩ =
      ⟨c.nextLine 1, found, levels, none, [], true⟩ := by
  obtain ⟨x, name, shape, letter, -⟩ := named
  have part := isNameChar_of_isAlpha letter
  have text : entryText e r = x :: (name ++ ':' :: ' ' :: '"' :: quotedRest e.2 r) := by
    rw [entryText, shape]
    rfl
  have landed : landing ⟨c, found, levels, none, [], false⟩ = c :=
    landing_here rest rfl (by decide) (by decide)
  have next : (c.nextLine 1).rest = entryText e r := by
    rw [Cursor.nextLine, rest]
    rfl
  have broken : c.takeBreak? = some (['\n'], c.nextLine 1) := by
    refine Cursor.takeBreak?_cons rest rfl ?_
    rw [text]
    exact fun absurd => ne_of_isAlpha letter (y := '\n') rfl (Option.some.inj absurd)
  rw [skipToToken_break (by rw [landed, broken])]
  exact skipToToken_here (next.trans text) (isGap_eq_false_of_isNameChar part)
    (isBreak_eq_false_of_isNameChar part) (ne_of_isAlpha letter rfl) (ne_of_isAlpha letter rfl)

/-- **Lines one under the other.** -/
theorem run?_entries (e : List Char × List Char) (es : List (List Char × List Char))
    (ready : s.skipToToken = ⟨c, found, levels, none, [], true⟩) (column : c.column = 0)
    (open? : levels = [] ∨ levels = [1]) (named : ∀ entry ∈ e :: es, IsName entry.1)
    (rest : c.rest = entryText e (es.flatMap fun e => '\n' :: entryText e []))
    (fewer : c.rest.length ≤ s.cursor.rest.length) :
    s.run? = ((e :: es).mapM readPair?).map fun read =>
      found.reverse ++ opening levels ++ read.flatMap entryTokens ++ [.blockEnd] := by
  have one : (opening levels).reverse = opening levels := by
    rcases open? with rfl | rfl
    · rfl
    · rfl
  induction es generalizing e s c found levels with
  | nil =>
    obtain ⟨d, after, ran⟩ :=
      run?_entry ready column open? (named e List.mem_cons_self) rest fewer
    rw [ran, List.mapM_cons, List.mapM_nil]
    cases readPair? e with
    | none => rfl
    | some read =>
      rw [Option.bind_some, run?_over after]
      simp [one]
  | cons e' es ih =>
    obtain ⟨d, after, ran⟩ :=
      run?_entry ready column open? (named e List.mem_cons_self) rest fewer
    rw [ran, List.mapM_cons]
    cases readPair? e with
    | none => rfl
    | some read =>
      have later := named e' (List.mem_cons_of_mem _ List.mem_cons_self)
      rw [List.flatMap_cons, List.cons_append, ← entryText_append] at after
      have next : (d.nextLine 1).rest =
          entryText e' (es.flatMap fun e => '\n' :: entryText e []) := by
        rw [Cursor.nextLine, after]
        rfl
      have shorter : (d.nextLine 1).rest.length ≤ d.rest.length := by
        rw [next, after]
        exact Nat.le_succ _
      rw [Option.bind_some, ih e' (skipToToken_newline later after) rfl (Or.inr rfl)
        (fun entry member => named entry (List.mem_cons_of_mem _ member)) next shorter rfl]
      have inner : opening [1] = [] := rfl
      cases (e' :: es).mapM readPair? with
      | none => rfl
      | some reads => simp [one, inner]

end Scan

/-- The tokens of lines one under the other. -/
def mappingTokens (es : List (List Char × List Char)) : List Token :=
  .blockMappingStart :: es.flatMap Scan.entryTokens ++ [.blockEnd]

/-- The tokens of a text of such lines, if none of its characters is forbidden. -/
theorem Token.ofText?_entries (e : List Char × List Char) (es : List (List Char × List Char))
    (named : ∀ entry ∈ e :: es, IsName entry.1) {text : List Char}
    (shape : text = Scan.entryText e (es.flatMap fun e => '\n' :: Scan.entryText e [])) :
    Token.ofText? text =
      if text.all isPrintable then ((e :: es).mapM Scan.readPair?).map mappingTokens
      else none := by
  obtain ⟨x, name, first, letter, -⟩ := named e List.mem_cons_self
  have part := isNameChar_of_isAlpha letter
  have start : text =
      x :: (name ++ ':' :: ' ' :: '"' :: quotedRest e.2
        (es.flatMap fun e => '\n' :: Scan.entryText e [])) := by
    rw [shape, Scan.entryText, first]
    rfl
  have ready : Scan.skipToToken { cursor := { rest := text } } = { cursor := { rest := text } } :=
    Scan.skipToToken_here start (isGap_eq_false_of_isNameChar part)
      (isBreak_eq_false_of_isNameChar part) (ne_of_isAlpha letter rfl) (ne_of_isAlpha letter rfl)
  rw [Token.ofText?, Scan.run?_entries e es ready rfl (Or.inl rfl) named shape (Nat.le_refl _)]
  rfl

end Formulary.Yaml
