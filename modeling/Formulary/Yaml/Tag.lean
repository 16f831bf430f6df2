import Formulary.Yaml.Scalar

/-!
# Texts of tags

A tag is written in full between angle brackets, or as a suffix to a handle, which stands for the
start of the tag. Any character may be spelled by the octets of its code.
-/

namespace Formulary.Yaml

/-! ## Octets -/

/-- An octet in two hexadecimal digits behind a percent sign. -/
def readOctet? : List Char → Option Nat
  | '%' :: a :: b :: _ => hexNumber? [a, b]
  | _ => none

/-- How many octets a character has, and what its first octet gives to its code. -/
def leadingOctet? (n : Nat) : Option (Nat × Nat) :=
  if n < 0x80 then some (1, n)
  else if n / 0x20 = 6 then some (2, n % 0x20)
  else if n / 0x10 = 14 then some (3, n % 0x10)
  else if n / 8 = 30 then some (4, n % 8)
  else none

/-- Further octets of a character, after what the ones before give to its code. -/
def readOctets? (code : Nat) : Nat → List Char → Option Nat
  | 0, _ => some code
  | n + 1, s =>
    match readOctet? s with
    | some octet => if octet / 0x40 = 2 then readOctets? (code * 0x40 + octet % 0x40) n (s.drop 3)
      else none
    | none => none

/-- A character spelled by its octets, and the length of the spelling. -/
def readSpelled? (s : List Char) : Option (Char × Nat) := do
  let (count, start) ← leadingOctet? (← readOctet? s)
  let c ← character? (← readOctets? start (count - 1) (s.drop 3))
  return (c, 3 * count)

/-! ## Parts of tags -/

/-- A character of tags. Between angle brackets there are three more. -/
def isTagCharacter (bracketed : Bool) (c : Char) : Bool :=
  isWord c || ";/?:@&=+$.%!~*'()".toList.contains c || (bracketed && ",[]".toList.contains c)

/-- The characters of a tag at the start of a text, and the length they take. -/
def readTagText (bracketed : Bool) (s : List Char) : Option (List Char × Nat) :=
  match s with
  | [] => some ([], 0)
  | c :: r =>
    if !isTagCharacter bracketed c then some ([], 0)
    else if c = '%' then
      match readSpelled? s with
      | none => none
      | some (x, n) => (readTagText bracketed (r.drop (n - 1))).map fun (text, m) =>
          (x :: text, n + m)
    else (readTagText bracketed r).map fun (text, m) => (c :: text, m + 1)
termination_by s.length
decreasing_by
  · simp only [List.length_drop, List.length_cons]
    omega
  · exact Nat.lt_succ_self _

/-- A handle at the start of a text: an exclamation mark, or a name between two. What starts like
one and lacks the second mark is answered too. -/
def readHandle? : List Char → Option (List Char)
  | '!' :: r =>
    let name := r.takeWhile isWord
    if (r.drop name.length).head? = some '!' then some ('!' :: name ++ ['!'])
    else some ('!' :: name)
  | _ => none

/-- The handle has both of its exclamation marks. -/
def isWholeHandle (handle : List Char) : Bool :=
  2 ≤ handle.length && handle.getLast? = some '!'

/-- A tag at the start of a text: its handle, its suffix and its length. A lone exclamation mark is
a suffix without handle. -/
def readTag? (s : List Char) : Option (List Char × List Char × Nat) :=
  match s with
  | '!' :: '<' :: r => do
    let (text, n) ← readTagText true r
    if text.isEmpty || (r.drop n).head? != some '>' then none
    return ([], text, n + 3)
  | _ => do
    let handle ← readHandle? s
    let (text, n) ← readTagText false (s.drop handle.length)
    if isWholeHandle handle then
      if text.isEmpty then none
      return (handle, text, handle.length + n)
    else
      match handle.drop 1 ++ text with
      | [] => return ([], ['!'], handle.length + n)
      | suffix => return (['!'], suffix, handle.length + n)

end Formulary.Yaml
