/-!
# Searching and cutting texts

All matches are leftmost and do not overlap. `splitOn`, `replaceAll` and `replaceFirst` each walk
the text on their own; `cut?` is the first match with what stands around it.
-/

namespace Formulary.Text

/-- What stands before and after the first occurrence of `needle`. -/
def cut? (needle : List Char) : List Char → Option (List Char × List Char)
  | [] => if needle.isEmpty then some ([], []) else none
  | c :: s =>
    match needle.isPrefixOf? (c :: s) with
    | some after => some ([], after)
    | none => (cut? needle s).map fun (before, after) => (c :: before, after)

/-- The text in front of the last occurrence of `needle`, and the text after it. -/
def cutLast? (needle s : List Char) : Option (List Char × List Char) :=
  (cut? needle.reverse s.reverse).map fun (after, before) => (before.reverse, after.reverse)

/-- `needle` occurs in the text. -/
def contains (needle s : List Char) : Bool := (cut? needle s).isSome

/-- The pieces around the occurrences of `separator`; `piece` is the piece under way, and `skip`
counts the characters left of an occurrence. -/
def splitFrom (separator piece : List Char) (skip : Nat) : List Char → List (List Char)
  | [] => [piece.reverse]
  | c :: s =>
    match skip with
    | k + 1 => splitFrom separator piece k s
    | 0 =>
      if separator.isPrefixOf (c :: s) then
        piece.reverse :: splitFrom separator [] (separator.length - 1) s
      else splitFrom separator (c :: piece) 0 s

/-- The pieces around the occurrences of a non-empty `separator`. -/
def splitOn (separator s : List Char) : List (List Char) := splitFrom separator [] 0 s

/-- Every occurrence of `needle` replaced; `skip` counts the characters left of an occurrence. -/
def replaceFrom (needle replacement : List Char) (skip : Nat) : List Char → List Char
  | [] => []
  | c :: s =>
    match skip with
    | k + 1 => replaceFrom needle replacement k s
    | 0 =>
      if needle.isPrefixOf (c :: s) then
        replacement ++ replaceFrom needle replacement (needle.length - 1) s
      else c :: replaceFrom needle replacement 0 s

/-- Every occurrence of a non-empty `needle` replaced. -/
def replaceAll (needle replacement s : List Char) : List Char := replaceFrom needle replacement 0 s

/-- The first occurrence of `needle` replaced. -/
def replaceFirst (needle replacement s : List Char) : List Char :=
  match cut? needle s with
  | some (before, after) => before ++ replacement ++ after
  | none => s

/-- The texts with `separator` between them. -/
def join (separator : List Char) (pieces : List (List Char)) : List Char :=
  List.intercalate separator pieces

/-- The two texts differ at most in the case of ASCII letters. -/
def sameIgnoringCase (s t : List Char) : Bool := s.map Char.toLower == t.map Char.toLower

end Formulary.Text
