import Formulary.Json.Basic
import Formulary.Number.Decimal

/-!
# Reading JSON

A text is cut into tokens by one pass over its characters, and the tokens are built into a value by
a machine with a stack of open containers. Members stay as written, so that a reader of records can
refuse a key that is given twice; `Json.ofText?` brings them into order. Integers have 64 bits, any
other number is a double and must be finite; containers nest at most 127 deep.
-/

namespace Formulary.Json

/-! ## Tokens -/

inductive Token where
  | openArray
  | closeArray
  | openObject
  | closeObject
  | comma
  | colon
  | scalar (value : Json)

/-- The digits of an integer part: a zero stands alone. -/
def isWholePart (ds : List Char) : Bool :=
  ds.all Char.isDigit && match ds with
    | [] => false
    | ['0'] => true
    | d :: _ => d != '0'

/-- The number that an integer spells without a leading sign. Outside 64 bits, and for a negative
zero, it is a double. -/
def ofWhole (negative : Bool) (n : Nat) : Option Json :=
  if negative then
    if 0 < n ∧ n ≤ 2 ^ 63 then some (.int (-n))
    else
      let x := Binary64.ofRatio true n 1
      if x.isFinite then some (.float x) else none
  else if n < 2 ^ 64 then some (.int n)
  else
    let x := Binary64.ofRatio false n 1
    if x.isFinite then some (.float x) else none

/-- The double of a numeral with a fraction or an exponent. -/
def ofFractional (negative : Bool) (s : List Char) : Option Json :=
  match Binary64.readMantissa s with
  | none => none
  | some (coefficient, places, rest) =>
    match Binary64.readExponent rest with
    | none => none
    | some exponent =>
      let x := Binary64.ofDecimal negative ⟨coefficient, exponent - places⟩
      if x.isFinite then some (.float x) else none

/-- A number without its sign. A point needs a digit after it. -/
def readUnsigned (negative : Bool) (s : List Char) : Option Json :=
  let whole := s.takeWhile Char.isDigit
  if !isWholePart whole then none
  else match s.dropWhile Char.isDigit with
    | [] => ofWhole negative (Decimal.ofDigits 0 whole)
    | '.' :: d :: _ => if d.isDigit then ofFractional negative s else none
    | '.' :: [] => none
    | _ => ofFractional negative s

/-- A word outside strings: a keyword or a number. -/
def readWord (word : List Char) : Option Json :=
  if word = "null".toList then some .null
  else if word = "true".toList then some (.bool true)
  else if word = "false".toList then some (.bool false)
  else match word with
    | '-' :: s => readUnsigned true s
    | s => readUnsigned false s

/-- The value of a hexadecimal digit. -/
def hexValue? (c : Char) : Option Nat :=
  if c.isDigit then some (c.toNat - '0'.toNat)
  else if 'a' ≤ c ∧ c ≤ 'f' then some (c.toNat - 'a'.toNat + 10)
  else if 'A' ≤ c ∧ c ≤ 'F' then some (c.toNat - 'A'.toNat + 10)
  else none

/-- The number of four hexadecimal digits. -/
def hexUnit? (a b c d : Char) : Option Nat := do
  return (((← hexValue? a) * 16 + (← hexValue? b)) * 16 + (← hexValue? c)) * 16 + (← hexValue? d)

/-- The character of an escape by one letter. -/
def shortEscape? : Char → Option Char
  | '"' => some '"'
  | '\\' => some '\\'
  | '/' => some '/'
  | 'b' => some '\x08'
  | 'f' => some '\x0c'
  | 'n' => some '\n'
  | 'r' => some '\r'
  | 't' => some '\t'
  | _ => none

/-- Where a reading of characters stands. -/
inductive Scan where
  /-- Between tokens. -/
  | between
  /-- In a word; its characters, last first. -/
  | word (reversed : List Char)
  /-- In a string; its characters, last first. -/
  | string (reversed : List Char)
  /-- In a string, after the first half of a surrogate pair. -/
  | half (high : Nat) (reversed : List Char)

/-- The token that a character is by itself. -/
def punctuation? : Char → Option Token
  | '[' => some .openArray
  | ']' => some .closeArray
  | '\x7b' => some .openObject
  | '\x7d' => some .closeObject
  | ',' => some .comma
  | ':' => some .colon
  | _ => none

/-- The blanks of JSON. -/
def isSpace (c : Char) : Bool := c = ' ' || c = '\t' || c = '\n' || c = '\r'

/-- The tokens of a text. -/
def tokens : Scan → List Char → Option (List Token)
  | .between, [] => some []
  | .word w, [] => do return [.scalar (← readWord w.reverse)]
  | .string _, [] | .half _ _, [] => none
  | .between, c :: s =>
    if isSpace c then tokens .between s
    else if c = '"' then tokens (.string []) s
    else match punctuation? c with
      | some t => do return t :: (← tokens .between s)
      | none => tokens (.word [c]) s
  | .word w, c :: s =>
    if isSpace c then do
      let v ← readWord w.reverse
      return .scalar v :: (← tokens .between s)
    else if c = '"' then none
    else match punctuation? c with
      | some t => do
        let v ← readWord w.reverse
        return .scalar v :: t :: (← tokens .between s)
      | none => tokens (.word (c :: w)) s
  | .string r, '"' :: s => do
    return .scalar (.string (String.ofList r.reverse)) :: (← tokens .between s)
  | .string r, '\\' :: 'u' :: a :: b :: c :: d :: s => do
    let unit ← hexUnit? a b c d
    if 0xD800 ≤ unit ∧ unit < 0xDC00 then tokens (.half unit r) s
    else if 0xDC00 ≤ unit ∧ unit < 0xE000 then none
    else tokens (.string (Char.ofNat unit :: r)) s
  | .string r, '\\' :: c :: s => do
    tokens (.string ((← shortEscape? c) :: r)) s
  | .string _, ['\\'] => none
  | .string r, c :: s => if c.toNat < 32 then none else tokens (.string (c :: r)) s
  | .half high r, '\\' :: 'u' :: a :: b :: c :: d :: s => do
    let unit ← hexUnit? a b c d
    if 0xDC00 ≤ unit ∧ unit < 0xE000 then
      tokens (.string (Char.ofNat (0x10000 + (high - 0xD800) * 0x400 + (unit - 0xDC00)) :: r)) s
    else none
  | .half _ _, _ :: _ => none

/-! ## Values -/

/-- An open container: what it holds so far, last first, and a key that waits for its value. -/
inductive Frame where
  | array (items : List Json)
  | object (members : Members) (key : Option String)

/-- What the machine reads next. -/
inductive Expect where
  /-- A value. -/
  | value
  /-- A value, or the end of an empty array. -/
  | item
  /-- A key, or the end of an empty object. -/
  | key
  /-- A key after a comma. -/
  | nextKey
  | colon
  /-- A comma or the end of the container. -/
  | comma
  deriving DecidableEq

/-- The stack after a finished value; `inr` when no container is open. -/
def push (v : Json) : List Frame → Option (List Frame ⊕ Json)
  | [] => some (.inr v)
  | .array items :: frames => some (.inl (.array (v :: items) :: frames))
  | .object members (some key) :: frames =>
    some (.inl (.object ((key, v) :: members) none :: frames))
  | .object _ none :: _ => none

/-- The deepest nesting of containers. -/
def depthLimit : Nat := 127

/-- The value that tokens spell, from an open stack. -/
def build (frames : List Frame) (expect : Expect) : List Token → Option Json
  | [] => none
  | t :: ts =>
    let finish (v : Json) (frames : List Frame) : Option Json :=
      match push v frames with
      | some (.inr v) => if ts.isEmpty then some v else none
      | some (.inl frames) => build frames .comma ts
      | none => none
    let isValue := expect = .value ∨ expect = .item
    match t, frames with
    | .scalar v, frames =>
      if isValue then finish v frames
      else match v, frames with
        | .string key, .object members none :: frames =>
          if expect = .key ∨ expect = .nextKey then
            build (.object members (some key) :: frames) .colon ts
          else none
        | _, _ => none
    | .openArray, frames =>
      if isValue ∧ frames.length < depthLimit then build (.array [] :: frames) .item ts else none
    | .openObject, frames =>
      if isValue ∧ frames.length < depthLimit then build (.object [] none :: frames) .key ts
      else none
    | .closeArray, .array items :: frames =>
      if expect = .comma ∨ expect = .item then finish (.array items.reverse) frames else none
    | .closeObject, .object members none :: frames =>
      if expect = .comma ∨ expect = .key then finish (.object members.reverse) frames else none
    | .comma, .array items :: frames =>
      if expect = .comma then build (.array items :: frames) .value ts else none
    | .comma, .object members none :: frames =>
      if expect = .comma then build (.object members none :: frames) .nextKey ts else none
    | .colon, frames => if expect = .colon then build frames .value ts else none
    | _, _ => none

/-- The value of a text, with the members of objects as written. -/
def written? (s : List Char) : Option Json := do build [] .value (← tokens .between s)

/-- The value of a text. -/
def ofText? (s : List Char) : Option Json := (written? s).map normalized

end Formulary.Json
