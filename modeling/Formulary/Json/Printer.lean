import Formulary.Json.Basic
import Formulary.Number.Decimal

/-!
# JSON text

Compact text without spaces, or indented text with a line for each item and member. Strings escape
the quote, the backslash and the controls below the space, five of them by letters; doubles follow
`Decimal.Layout.json`.
-/

namespace Formulary.Json

/-- A character inside a string. -/
def escape (c : Char) : List Char :=
  match c with
  | '"' => ['\\', '"']
  | '\\' => ['\\', '\\']
  | '\x08' => ['\\', 'b']
  | '\x0c' => ['\\', 'f']
  | '\n' => ['\\', 'n']
  | '\r' => ['\\', 'r']
  | '\t' => ['\\', 't']
  | c =>
    if c.toNat < 32 then
      ['\\', 'u', '0', '0', Nat.digitChar (c.toNat / 16), Nat.digitChar (c.toNat % 16)]
    else [c]

/-- A string in quotes. -/
def quoted (s : List Char) : List Char := '"' :: s.flatMap escape ++ ['"']

/-- An integer in decimal digits. -/
def intText : Int → List Char
  | .ofNat n => Decimal.digits n
  | .negSucc n => '-' :: Decimal.digits (n + 1)

mutual

/-- The compact text of a value. -/
def chars : Json → List Char
  | .null => ['n', 'u', 'l', 'l']
  | .bool true => ['t', 'r', 'u', 'e']
  | .bool false => ['f', 'a', 'l', 's', 'e']
  | .int n => intText n
  | .float x => if x.isFinite then Decimal.Layout.json.text x else ['n', 'u', 'l', 'l']
  | .string s => quoted s.toList
  | .array [] => ['[', ']']
  | .array (v :: items) => '[' :: v.chars ++ itemsChars items
  | .object [] => ['\x7b', '\x7d']
  | .object ((k, v) :: members) =>
    '\x7b' :: quoted k.toList ++ ':' :: v.chars ++ membersChars members

/-- The items after the first one, and the closing bracket. -/
def itemsChars : List Json → List Char
  | [] => [']']
  | v :: items => ',' :: v.chars ++ itemsChars items

/-- The members after the first one, and the closing brace. -/
def membersChars : List (String × Json) → List Char
  | [] => ['\x7d']
  | (k, v) :: members => ',' :: quoted k.toList ++ ':' :: v.chars ++ membersChars members

end

/-- The compact text of a value. -/
def text (v : Json) : String := String.ofList v.chars

/-! ## Indented text -/

/-- A line feed, and two spaces for each open container. -/
def newline (level : Nat) : List Char := '\n' :: List.replicate (2 * level) ' '

mutual

/-- The indented text of a value inside `level` containers. -/
def indentedChars (level : Nat) : Json → List Char
  | .array (v :: items) =>
    '[' :: newline (level + 1) ++ v.indentedChars (level + 1) ++ indentedItems level items
  | .object ((k, v) :: members) =>
    '\x7b' :: newline (level + 1) ++ quoted k.toList ++ ':' :: ' ' :: v.indentedChars (level + 1) ++
      indentedMembers level members
  | v => v.chars

/-- The items after the first one, and the closing bracket. -/
def indentedItems (level : Nat) : List Json → List Char
  | [] => newline level ++ [']']
  | v :: items =>
    ',' :: newline (level + 1) ++ v.indentedChars (level + 1) ++ indentedItems level items

/-- The members after the first one, and the closing brace. -/
def indentedMembers (level : Nat) : List (String × Json) → List Char
  | [] => newline level ++ ['\x7d']
  | (k, v) :: members =>
    ',' :: newline (level + 1) ++ quoted k.toList ++ ':' :: ' ' :: v.indentedChars (level + 1) ++
      indentedMembers level members

end

/-- The indented text of a value. -/
def indentedText (v : Json) : String := String.ofList (v.indentedChars 0)

end Formulary.Json
