import Formulary.Script.Error
import Formulary.Json.Reader
import Formulary.Text.Letter

/-!
# Cutting expressions into tokens

`tokenize` reads a text from the left. Every reader here takes the text that is left and answers
with what it read and a shorter rest; a fault is placed by the number of characters that were left
where it was found, which `tokenize` turns into a position.
-/

namespace Formulary.Script

/-- What is wrong, and how many characters were left there. -/
structure Fault where
  cause : LexCause
  remaining : Nat

/-- What was read off a text, and the rest of it. -/
structure Lexed (α : Type) (s : List Char) where
  value : α
  rest : List Char
  shorter : rest.length < s.length

theorem length_lt_cons (c : Char) (r : List Char) : r.length < (c :: r).length := by
  simp

theorem length_lt_cons_of_lt (c : Char) {r rest : List Char} (h : rest.length < r.length) :
    rest.length < (c :: r).length := by
  rw [List.length_cons]
  omega

theorem length_lt_cons_of_lt_of_lt (c : Char) {r r' rest : List Char} (h : r'.length < r.length)
    (h' : rest.length < r'.length) : rest.length < (c :: r).length := by
  rw [List.length_cons]
  omega

/-! ## Escapes and strings -/

/-- The number of the four characters after `\u`: hexadecimal digits, the first of which may be a
plus sign. -/
def unicodeUnit? (a b c d : Char) : Option Nat :=
  if a = '+' then Json.hexUnit? '0' b c d else Json.hexUnit? a b c d

/-- The character with a code, unless the code is half of a surrogate pair. -/
def scalar? (code : Nat) : Option Char :=
  if h : code.isValidChar then some (Char.ofNatAux code h) else none

/-- The character that a letter after a backslash stands for. -/
def escapeLetter : Char → Char
  | 'n' => '\n'
  | 't' => '\t'
  | 'r' => '\r'
  | 'b' => '\x08'
  | 'f' => '\x0c'
  | '0' => '\x00'
  | c => c

/-- An escape, from the character after the backslash on. -/
def lexEscape (s : List Char) : Except Fault (Lexed Char s) :=
  match s with
  | [] => .error ⟨.danglingEscape, 1⟩
  | 'u' :: a :: b :: c :: d :: r =>
    match (unicodeUnit? a b c d).bind scalar? with
    | some value => .ok ⟨value, r, by simp; omega⟩
    | none => .error ⟨.invalidUnicodeEscape [a, b, c, d], r.length + 6⟩
  | 'u' :: r => .error ⟨.invalidUnicodeEscape r, r.length + 2⟩
  | c :: r => .ok ⟨escapeLetter c, r, by simp⟩

/-- The rest of a quoted string, after its opening quote. `start` counts the characters left at
that quote. -/
def lexString (start : Nat) (quote : Char) (s : List Char) :
    Except Fault (Lexed (List Char) s) :=
  match s with
  | [] => .error ⟨.unterminatedString, start⟩
  | c :: r =>
    if c = quote then .ok ⟨[], r, length_lt_cons c r⟩
    else if c = '\\' then
      match lexEscape r with
      | .error fault => .error fault
      | .ok ⟨value, r', h⟩ =>
        match lexString start quote r' with
        | .error fault => .error fault
        | .ok ⟨text, rest, h'⟩ => .ok ⟨value :: text, rest, length_lt_cons_of_lt_of_lt c h h'⟩
    else
      match lexString start quote r with
      | .error fault => .error fault
      | .ok ⟨text, rest, h⟩ => .ok ⟨c :: text, rest, length_lt_cons_of_lt c h⟩
termination_by s.length

/-! ## Templates -/

/-- The chunks of a template whose text so far is `text`, last character first. -/
def Chunk.flush (text : List Char) (chunks : List Chunk) : List Chunk :=
  if text.isEmpty then chunks else .text text.reverse :: chunks

theorem Chunk.chunksWeight_flush (text : List Char) (chunks : List Chunk) :
    chunksWeight (Chunk.flush text chunks) = chunksWeight chunks := by
  unfold Chunk.flush
  split <;> simp [chunksWeight, Chunk.weight]

/-- The source of a substitution that ends here. -/
theorem enough_nil (c : Char) (r : List Char) :
    ([] : List Char).length + r.length < (c :: r).length := by
  rw [List.length_nil, List.length_cons]
  omega

theorem enough_cons (c : Char) {r source rest : List Char}
    (h : source.length + rest.length < r.length) :
    (c :: source).length + rest.length < (c :: r).length := by
  rw [List.length_cons, List.length_cons]
  omega

/-- Quoted text in front of the rest of the source. -/
theorem enough_string (c : Char) {r r' source rest : List Char} (h : r'.length < r.length)
    (h' : source.length + rest.length < r'.length) :
    (c :: r.take (r.length - r'.length) ++ source).length + rest.length < (c :: r).length := by
  rw [List.length_append, List.length_cons, List.length_take, List.length_cons]
  omega

/-- A template in front of the rest of the source. -/
theorem enough_template (c : Char) {r r' source rest : List Char} {chunks : List Chunk}
    (h : chunksWeight chunks + r'.length < r.length)
    (h' : source.length + rest.length < r'.length) :
    (c :: r.take (r.length - r'.length) ++ source).length + rest.length < (c :: r).length :=
  enough_string c (by omega) h'

/-- What was read off a text, and the rest of it; the text was long enough for both, `size` being
what the value takes. -/
structure Weighed (α : Type) (size : α → Nat) (bound : Nat) where
  value : α
  rest : List Char
  enough : size value + rest.length < bound

mutual

/-- The rest of a template, after its opening backquote; `text` is the text chunk under way. -/
def lexTemplate (start : Nat) (text : List Char) (s : List Char) :
    Except Fault (Weighed (List Chunk) chunksWeight s.length) :=
  match s with
  | [] => .error ⟨.unterminatedTemplate, start⟩
  | '\x60' :: r =>
    .ok ⟨Chunk.flush text [], r, by simp [Chunk.chunksWeight_flush, chunksWeight]⟩
  | '\\' :: r =>
    match lexEscape r with
    | .error fault => .error fault
    | .ok ⟨value, r', h⟩ =>
      match lexTemplate start (value :: text) r' with
      | .error fault => .error fault
      | .ok ⟨chunks, rest, h'⟩ => .ok ⟨chunks, rest, by simp; omega⟩
  | '$' :: '\x7b' :: r =>
    match lexSubstitution (r.length + 1) 0 r with
    | .error fault => .error fault
    | .ok ⟨source, r', h⟩ =>
      match lexTemplate start [] r' with
      | .error fault => .error fault
      | .ok ⟨chunks, rest, h'⟩ =>
        .ok ⟨Chunk.flush text (.source source :: chunks), rest, by
          simp [Chunk.chunksWeight_flush, chunksWeight, Chunk.weight]; omega⟩
  | c :: r =>
    match lexTemplate start (c :: text) r with
    | .error fault => .error fault
    | .ok ⟨chunks, rest, h⟩ => .ok ⟨chunks, rest, by simp; omega⟩
termination_by s.length

/-- The source of a substitution up to the brace that closes it. `depth` counts the braces open
inside it; quoted text is passed over. -/
def lexSubstitution (start depth : Nat) (s : List Char) :
    Except Fault (Weighed (List Char) List.length s.length) :=
  match s with
  | [] => .error ⟨.unterminatedSubstitution, start⟩
  | c :: r =>
    if c = '\x7d' then
      match depth with
      | 0 => .ok ⟨[], r, enough_nil c r⟩
      | depth + 1 =>
        match lexSubstitution start depth r with
        | .error fault => .error fault
        | .ok ⟨source, rest, h⟩ => .ok ⟨c :: source, rest, enough_cons c h⟩
    else if c = '\x7b' then
      match lexSubstitution start (depth + 1) r with
      | .error fault => .error fault
      | .ok ⟨source, rest, h⟩ => .ok ⟨c :: source, rest, enough_cons c h⟩
    else if c = '"' ∨ c = '\'' then
      match lexString (r.length + 1) c r with
      | .error fault => .error fault
      | .ok ⟨_, r', h⟩ =>
        match lexSubstitution start depth r' with
        | .error fault => .error fault
        | .ok ⟨source, rest, h'⟩ =>
          .ok ⟨c :: r.take (r.length - r'.length) ++ source, rest, enough_string c h h'⟩
    else if c = '\x60' then
      match lexTemplate (r.length + 1) [] r with
      | .error fault => .error fault
      | .ok ⟨_, r', h⟩ =>
        match lexSubstitution start depth r' with
        | .error fault => .error fault
        | .ok ⟨source, rest, h'⟩ =>
          .ok ⟨c :: r.take (r.length - r'.length) ++ source, rest, enough_template c h h'⟩
    else
      match lexSubstitution start depth r with
      | .error fault => .error fault
      | .ok ⟨source, rest, h⟩ => .ok ⟨c :: source, rest, enough_cons c h⟩
termination_by s.length

end

/-! ## Numbers and names -/

/-- The exponent at the front of a text, if a digit follows its mark and sign. -/
def exponentPart (s : List Char) : List Char :=
  match s with
  | mark :: r =>
    if mark = 'e' ∨ mark = 'E' then
      let (sign, r) := match r with
        | '+' :: r => (['+'], r)
        | '-' :: r => (['-'], r)
        | r => ([], r)
      let ds := r.takeWhile Char.isDigit
      if ds.isEmpty then [] else mark :: sign ++ ds
    else []
  | [] => []

/-- The longest run of digits and points at the front of a text, with its exponent. -/
def numeral (s : List Char) : List Char :=
  let body := s.takeWhile fun c => c.isDigit || c = '.'
  body ++ exponentPart (s.drop body.length)

/-- The first character of a name. -/
def isNameStart (c : Char) : Bool := Text.isAlphabetic c || c = '_' || c = '$'

/-- A later character of a name. -/
def isNamePart (c : Char) : Bool := Text.isAlphanumeric c || c = '_' || c = '$'

/-! ## Punctuation -/

/-- The token of punctuation at the front of a text, and its length. A question mark before a
point and a digit stands alone, as in `a?.5:1`. -/
def punctuation? : List Char → Option (Token × Nat)
  | '?' :: '?' :: _ => some (.nullish, 2)
  | '?' :: '.' :: d :: _ => if d.isDigit then some (.question, 1) else some (.questionDot, 2)
  | ['?', '.'] => some (.questionDot, 2)
  | '?' :: _ => some (.question, 1)
  | '=' :: '>' :: _ => some (.arrow, 2)
  | '=' :: '=' :: '=' :: _ => some (.equal, 3)
  | '=' :: '=' :: _ => some (.equal, 2)
  | '!' :: '=' :: '=' :: _ => some (.notEqual, 3)
  | '!' :: '=' :: _ => some (.notEqual, 2)
  | '!' :: _ => some (.bang, 1)
  | '<' :: '=' :: _ => some (.lessEqual, 2)
  | '<' :: _ => some (.less, 1)
  | '>' :: '=' :: _ => some (.greaterEqual, 2)
  | '>' :: _ => some (.greater, 1)
  | '&' :: '&' :: _ => some (.and, 2)
  | '|' :: '|' :: _ => some (.or, 2)
  | '(' :: _ => some (.openParen, 1)
  | ')' :: _ => some (.closeParen, 1)
  | '[' :: _ => some (.openBracket, 1)
  | ']' :: _ => some (.closeBracket, 1)
  | '\x7b' :: _ => some (.openBrace, 1)
  | '\x7d' :: _ => some (.closeBrace, 1)
  | ',' :: _ => some (.comma, 1)
  | ':' :: _ => some (.colon, 1)
  | '+' :: _ => some (.plus, 1)
  | '-' :: _ => some (.minus, 1)
  | '*' :: _ => some (.star, 1)
  | '/' :: _ => some (.slash, 1)
  | '%' :: _ => some (.percent, 1)
  | '.' :: _ => some (.dot, 1)
  | _ => none

/-! ## Tokens -/

/-- A number starts here: a digit, or a point before one. -/
def startsNumber : List Char → Bool
  | '.' :: d :: _ => d.isDigit
  | c :: _ => c.isDigit
  | [] => false

theorem weight_string (text : List Char) {r rest : List Char} (h : rest.length < r.length) :
    Token.weight (.string text) + rest.length < r.length + 2 := by
  rw [Token.weight]
  · omega
  · simp

theorem weight_template {chunks : List Chunk} {r rest : List Char}
    (h : chunksWeight chunks + rest.length < r.length) :
    Token.weight (.template chunks) + rest.length < r.length + 2 := by
  rw [Token.weight]
  omega

theorem weight_number (n : Binary64) (text r : List Char) :
    Token.weight (.number n) + (r.drop (text.length - 1)).length < r.length + 2 := by
  rw [Token.weight, List.length_drop]
  · omega
  · simp

theorem weight_punctuation {c : Char} {r : List Char} {t : Token} {width : Nat}
    (h : punctuation? (c :: r) = some (t, width)) :
    t.weight + (r.drop (width - 1)).length < r.length + 2 := by
  have : t.weight = 1 := by
    revert h
    unfold punctuation?
    split <;> intro h <;> try split at h
    all_goals simp at h
    all_goals first | contradiction | (obtain ⟨rfl, _⟩ := h; rfl)
  rw [this, List.length_drop]
  omega

theorem weight_ident (c : Char) (r : List Char) :
    Token.weight (.ident (String.ofList (c :: r.takeWhile isNamePart))) +
      (r.dropWhile isNamePart).length < r.length + 2 := by
  have := (List.dropWhile_sublist isNamePart (l := r)).length_le
  rw [Token.weight]
  · omega
  · simp

/-- The token at the front of a text that does not start with a blank. -/
def lexToken (c : Char) (r : List Char) :
    Except Fault (Weighed Token Token.weight (r.length + 2)) :=
  if c = '"' ∨ c = '\'' then
    match lexString (r.length + 1) c r with
    | .error fault => .error fault
    | .ok ⟨text, rest, h⟩ => .ok ⟨.string text, rest, weight_string text h⟩
  else if c = '\x60' then
    match lexTemplate (r.length + 1) [] r with
    | .error fault => .error fault
    | .ok ⟨chunks, rest, h⟩ => .ok ⟨.template chunks, rest, weight_template h⟩
  else if startsNumber (c :: r) then
    let text := numeral (c :: r)
    match Binary64.ofText? text with
    | some n => .ok ⟨.number n, r.drop (text.length - 1), weight_number n text r⟩
    | none => .error ⟨.invalidNumber text, r.length + 1⟩
  else
    match h : punctuation? (c :: r) with
    | some (t, width) => .ok ⟨t, r.drop (width - 1), weight_punctuation h⟩
    | none =>
      if isNameStart c then
        .ok ⟨.ident (String.ofList (c :: r.takeWhile isNamePart)), r.dropWhile isNamePart,
          weight_ident c r⟩
      else .error ⟨.unexpectedCharacter c, r.length + 1⟩

/-- The blanks between tokens. -/
def isGap (c : Char) : Bool := c = ' ' || c = '\t' || c = '\r' || c = '\n'

/-- The tokens of a text, none heavier than it is long. -/
def lexAll (s : List Char) : Except Fault { ts : List Token // weight ts ≤ s.length } :=
  match s with
  | [] => .ok ⟨[], by simp [weight]⟩
  | c :: r =>
    if isGap c then
      match lexAll r with
      | .error fault => .error fault
      | .ok ⟨ts, h⟩ => .ok ⟨ts, by simp; omega⟩
    else
      match lexToken c r with
      | .error fault => .error fault
      | .ok ⟨t, rest, h⟩ =>
        have : rest.length < r.length + 1 := by
          have := t.weight_pos
          omega
        match lexAll rest with
        | .error fault => .error fault
        | .ok ⟨ts, h'⟩ => .ok ⟨t :: ts, by simp [weight] at h ⊢; omega⟩
termination_by s.length
decreasing_by all_goals simp only [List.length_cons]; omega

/-- The tokens of an expression. -/
def tokenize (s : List Char) : Except Error { ts : List Token // weight ts ≤ s.length } :=
  match lexAll s with
  | .ok ts => .ok ts
  | .error fault => .error (.lex (s.length - fault.remaining) fault.cause)

end Formulary.Script
