import Formulary.Json.Printer
import Formulary.Text.Printable

/-!
# Tokens of expressions

A template keeps the sources of its substitutions as text; they are parsed only when the template
is. `Token.listing` is the form in which error messages show a token.
-/

namespace Formulary.Script

/-- A piece of a template between its backquotes. -/
inductive Chunk where
  | text (s : List Char)
  | source (s : List Char)
  deriving DecidableEq

inductive Token where
  | number (value : Binary64)
  | string (text : List Char)
  | template (chunks : List Chunk)
  | ident (name : String)
  | openParen
  | closeParen
  | openBracket
  | closeBracket
  | openBrace
  | closeBrace
  | comma
  | dot
  | questionDot
  | colon
  | question
  | nullish
  | arrow
  | plus
  | minus
  | star
  | slash
  | percent
  | bang
  | equal
  | notEqual
  | less
  | lessEqual
  | greater
  | greaterEqual
  | and
  | or
  deriving DecidableEq

/-! ## Weight

The number of characters that a parser of the tokens may still have to read: one for a token, and
for a template also its substitutions. It bounds the parser's recursion. -/

/-- The weight of a chunk. -/
def Chunk.weight : Chunk → Nat
  | .text _ => 0
  | .source s => s.length + 1

/-- The weight of the chunks of a template. -/
def chunksWeight : List Chunk → Nat
  | [] => 0
  | c :: cs => c.weight + chunksWeight cs

def Token.weight : Token → Nat
  | .template chunks => chunksWeight chunks + 1
  | _ => 1

/-- The weight of a list of tokens. -/
def weight : List Token → Nat
  | [] => 0
  | t :: ts => t.weight + weight ts

theorem Token.weight_pos (t : Token) : 0 < t.weight := by
  cases t <;> simp [Token.weight]

/-! ## Listing -/

/-- Items with a comma and a space between them. -/
def commaSeparated (items : List String) : String := ", ".intercalate items

/-- A text in quotes, as a listing shows it. -/
def quotedListing (s : List Char) : String := String.ofList (Text.listingQuoted s)

def Chunk.listing : Chunk → String
  | .text s => "Text(" ++ quotedListing s ++ ")"
  | .source s => "Source(" ++ quotedListing s ++ ")"

/-- The token as error messages show it. -/
def Token.listing : Token → String
  | .number n => "Number(" ++ String.ofList (Decimal.Layout.listing.text n) ++ ")"
  | .string s => "Str(" ++ quotedListing s ++ ")"
  | .template chunks => "Template([" ++ commaSeparated (chunks.map Chunk.listing) ++ "])"
  | .ident name => "Ident(" ++ quotedListing name.toList ++ ")"
  | .openParen => "LParen"
  | .closeParen => "RParen"
  | .openBracket => "LBracket"
  | .closeBracket => "RBracket"
  | .openBrace => "LBrace"
  | .closeBrace => "RBrace"
  | .comma => "Comma"
  | .dot => "Dot"
  | .questionDot => "QuestionDot"
  | .colon => "Colon"
  | .question => "Question"
  | .nullish => "Nullish"
  | .arrow => "Arrow"
  | .plus => "Plus"
  | .minus => "Minus"
  | .star => "Star"
  | .slash => "Slash"
  | .percent => "Percent"
  | .bang => "Bang"
  | .equal => "Eq"
  | .notEqual => "Ne"
  | .less => "Lt"
  | .lessEqual => "Le"
  | .greater => "Gt"
  | .greaterEqual => "Ge"
  | .and => "And"
  | .or => "Or"

end Formulary.Script
