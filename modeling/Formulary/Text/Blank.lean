/-!
# Blanks

The characters that trimming removes: those of the property White_Space.
-/

namespace Formulary.Text

/-- Whether all characters of a text have a property is decided on the text, whatever else is in
scope. -/
instance (priority := 20000) decidableForallMem (s : List Char) (p : Char → Prop)
    [DecidablePred p] : Decidable (∀ c ∈ s, p c) :=
  List.decidableBAll p s

/-- The first and last code of each run of a set of characters. -/
abbrev Runs := List (Nat × Nat)

/-- The character lies in one of the runs. -/
def Runs.has (runs : Runs) (c : Char) : Bool :=
  runs.any fun (first, last) => first ≤ c.toNat && c.toNat ≤ last

/-- The runs of White_Space. -/
def blankRuns : Runs :=
  [(0x9, 0xD), (0x20, 0x20), (0x85, 0x85), (0xA0, 0xA0), (0x1680, 0x1680), (0x2000, 0x200A),
   (0x2028, 0x2029), (0x202F, 0x202F), (0x205F, 0x205F), (0x3000, 0x3000)]

/-- A character of White_Space. -/
def isBlank (c : Char) : Bool := blankRuns.has c

/-- The text without its leading blanks. -/
def trimStart (s : List Char) : List Char := s.dropWhile isBlank

/-- The text without its trailing blanks. -/
def trimEnd (s : List Char) : List Char := (s.reverse.dropWhile isBlank).reverse

/-- The text without blanks at either end. -/
def trim (s : List Char) : List Char := trimEnd (trimStart s)

end Formulary.Text
