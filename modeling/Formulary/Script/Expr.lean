import Formulary.Script.Token

/-!
# Expressions

The syntax trees of the expression language, and their listing, in which an error message shows
what cannot be called.
-/

namespace Formulary.Script

inductive UnaryOp where
  | not
  | negate
  | plus
  deriving DecidableEq

/-- Operators that read both operands. -/
inductive StrictOp where
  | add
  | sub
  | mul
  | div
  | rem
  | eq
  | ne
  | lt
  | le
  | gt
  | ge
  deriving DecidableEq

/-- Operators that may stop after the left operand. -/
inductive LazyOp where
  | and
  | or
  | nullish
  deriving DecidableEq

mutual

inductive Expr where
  | literal (value : Json)
  | template (pieces : List Piece)
  | array (items : List Expr)
  | object (entries : List (String × Expr))
  | ident (name : String)
  | member (object : Expr) (name : String) (optional : Bool)
  | index (object key : Expr) (optional : Bool)
  | call (callee : Expr) (args : List Expr)
  | unary (op : UnaryOp) (operand : Expr)
  | strict (op : StrictOp) (left right : Expr)
  | lazy (op : LazyOp) (left right : Expr)
  | conditional (test consequent alternate : Expr)
  /-- An arrow function of at most one parameter. -/
  | arrow (param : Option String) (body : Expr)

/-- A piece of a template. -/
inductive Piece where
  | text (s : List Char)
  | expr (e : Expr)

end

instance : Inhabited Expr := ⟨.literal .null⟩

/-! ## Listing -/

def UnaryOp.listing : UnaryOp → String
  | .not => "Not"
  | .negate => "Negate"
  | .plus => "Plus"

def StrictOp.listing : StrictOp → String
  | .add => "Add"
  | .sub => "Sub"
  | .mul => "Mul"
  | .div => "Div"
  | .rem => "Rem"
  | .eq => "Eq"
  | .ne => "Ne"
  | .lt => "Lt"
  | .le => "Le"
  | .gt => "Gt"
  | .ge => "Ge"

def LazyOp.listing : LazyOp → String
  | .and => "And"
  | .or => "Or"
  | .nullish => "Nullish"

/-- A name with its fields in braces. -/
def recordListing (name : String) (fields : List (String × String)) : String :=
  name ++ " \x7b " ++ commaSeparated (fields.map fun (k, v) => k ++ ": " ++ v) ++ " \x7d"

def boolListing (b : Bool) : String := if b then "true" else "false"

/-- A literal. Syntax trees hold no compound ones. -/
def literalListing : Json → String
  | .null => "Null"
  | .bool b => "Bool(" ++ boolListing b ++ ")"
  | .string s => "String(" ++ quotedListing s.toList ++ ")"
  | .int n => "Number(" ++ (Json.int n).text ++ ")"
  | .float x => "Number(" ++ (Json.float x).text ++ ")"
  | v => v.text

def nameListing (name : String) : String := quotedListing name.toList

mutual

/-- The expression as error messages show it. -/
def Expr.listing : Expr → String
  | .literal v => "Literal(" ++ literalListing v ++ ")"
  | .template pieces => "Template([" ++ commaSeparated (pieceListings pieces) ++ "])"
  | .array items => "Array([" ++ commaSeparated (itemListings items) ++ "])"
  | .object entries => "Object([" ++ commaSeparated (entryListings entries) ++ "])"
  | .ident name => "Ident(" ++ nameListing name ++ ")"
  | .member object name optional => recordListing "Member"
    [("object", object.listing), ("property", nameListing name), ("optional", boolListing optional)]
  | .index object key optional => recordListing "Index"
    [("object", object.listing), ("index", key.listing), ("optional", boolListing optional)]
  | .call callee args => recordListing "Call"
    [("callee", callee.listing), ("args", "[" ++ commaSeparated (itemListings args) ++ "]")]
  | .unary op operand => recordListing "Unary" [("op", op.listing), ("operand", operand.listing)]
  | .strict op left right => recordListing "Binary"
    [("op", op.listing), ("left", left.listing), ("right", right.listing)]
  | .lazy op left right => recordListing "Logical"
    [("op", op.listing), ("left", left.listing), ("right", right.listing)]
  | .conditional test consequent alternate => recordListing "Conditional"
    [("test", test.listing), ("consequent", consequent.listing), ("alternate", alternate.listing)]
  | .arrow param body => recordListing "Lambda"
    [("param", match param with
      | some name => "Some(" ++ nameListing name ++ ")"
      | none => "None"), ("body", body.listing)]

def itemListings : List Expr → List String
  | [] => []
  | e :: items => e.listing :: itemListings items

def entryListings : List (String × Expr) → List String
  | [] => []
  | (k, e) :: entries => ("(" ++ nameListing k ++ ", " ++ e.listing ++ ")") :: entryListings entries

def pieceListings : List Piece → List String
  | [] => []
  | .text s :: pieces => ("Text(" ++ quotedListing s ++ ")") :: pieceListings pieces
  | .expr e :: pieces => ("Expr(" ++ e.listing ++ ")") :: pieceListings pieces

end

end Formulary.Script
