import Formulary.Text.Blank
import Formulary.Text.Search

/-!
# Texts with an expression block

A property text holds at most one block between double braces. It runs from the first opening pair
to the last closing pair, so that braces inside an expression do not end it early.
-/

namespace Formulary.Template

/-- A property text around its block. Without a block the whole text is `before`. -/
structure Parts where
  before : List Char
  expression : List Char
  after : List Char
  deriving DecidableEq

def openBlock : List Char := ['\x7b', '\x7b']

def closeBlock : List Char := ['\x7d', '\x7d']

/-- The text is taken apart at its block. -/
def Parts.ofText (raw : List Char) : Parts :=
  match Text.cut? openBlock raw with
  | none => ⟨raw, [], []⟩
  | some (before, rest) =>
    match Text.cutLast? closeBlock rest with
    | none => ⟨raw, [], []⟩
    | some (expression, after) => ⟨before, expression, after⟩

/-- The text is plain: its block is blank or missing. -/
def Parts.isLiteral (p : Parts) : Bool := (Text.trim p.expression).isEmpty

/-- Text stands around the block. -/
def Parts.hasAffixes (p : Parts) : Bool := !p.before.isEmpty || !p.after.isEmpty

/-- The text around the block. -/
def Parts.affixes (p : Parts) : List Char := p.before ++ p.after

end Formulary.Template
