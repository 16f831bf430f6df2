import Formulary.Script.Expr
import Formulary.Script.Lexer
import Formulary.Script.Value

/-!
# Parsing expressions

Recursive descent. Each reader takes the tokens that are left and answers with what it built and a
rest of smaller weight, so the substitutions of a template, which are texts again, end the
recursion too.
-/

namespace Formulary.Script

/-- What was built from tokens, and the rest of them, lighter than `bound`. -/
structure Parsed (α : Type) (bound : Nat) where
  value : α
  rest : List Token
  lighter : weight rest < bound

/-! ## Operators -/

inductive Operator where
  | strict (op : StrictOp)
  | lazy (op : LazyOp)

def Operator.apply (left right : Expr) : Operator → Expr
  | .strict op => .strict op left right
  | .lazy op => .lazy op left right

/-- The operator that a token is at a level of binding, the loosest first. -/
def operator? : (level : Nat) → Token → Option Operator
  | 0, .nullish => some (.lazy .nullish)
  | 1, .or => some (.lazy .or)
  | 2, .and => some (.lazy .and)
  | 3, .equal => some (.strict .eq)
  | 3, .notEqual => some (.strict .ne)
  | 4, .less => some (.strict .lt)
  | 4, .lessEqual => some (.strict .le)
  | 4, .greater => some (.strict .gt)
  | 4, .greaterEqual => some (.strict .ge)
  | 5, .plus => some (.strict .add)
  | 5, .minus => some (.strict .sub)
  | 6, .star => some (.strict .mul)
  | 6, .slash => some (.strict .div)
  | 6, .percent => some (.strict .rem)
  | _, _ => none

/-- The level at which operands are no longer joined by operators. -/
def operandLevel : Nat := 7

/-- The operator that a token is in front of its operand. -/
def unaryOp? : Token → Option UnaryOp
  | .bang => some .not
  | .minus => some .negate
  | .plus => some .plus
  | _ => none

/-- The expression of a name: four names are literals. -/
def ofName (name : String) : Expr :=
  if name = "true" then .literal (.bool true)
  else if name = "false" then .literal (.bool false)
  else if name = "null" ∨ name = "undefined" then .literal .null
  else .ident name

/-! ## Single tokens -/

/-- The tokens after one that must come next. -/
def expect (wanted : Token) (ts : List Token) :
    Except Error { rest : List Token // weight rest < weight ts } :=
  match ts with
  | [] => .error (.parse (.expected wanted none))
  | t :: rest =>
    if t = wanted then .ok ⟨rest, by have := t.weight_pos; simp [weight]; omega⟩
    else .error (.parse (.expected wanted (some t)))

/-- The tokens after one that may come next. -/
def eat? (wanted : Token) (ts : List Token) :
    Option { rest : List Token // weight rest < weight ts } :=
  match ts with
  | [] => none
  | t :: rest =>
    if t = wanted then some ⟨rest, by have := t.weight_pos; simp [weight]; omega⟩ else none

/-- The name of a property, and the tokens after it. -/
def propertyName (ts : List Token) : Except Error (Parsed String (weight ts)) :=
  match ts with
  | .ident name :: rest => .ok ⟨name, rest, by simp [weight, Token.weight]⟩
  | t :: _ => .error (.parse (.expectedProperty (some t)))
  | [] => .error (.parse (.expectedProperty none))

/-- The key that a token gives to an entry of an object. -/
def entryKey? : Token → Option String
  | .ident name => some name
  | .string s => some (String.ofList s)
  | .number n => some (numberText n)
  | _ => none

/-- The parameter of an arrow function at the front, and the tokens of its body. -/
def arrowHead? (ts : List Token) :
    Option (Option String × { rest : List Token // weight rest < weight ts }) :=
  match ts with
  | .ident name :: .arrow :: rest =>
    some (some name, ⟨rest, by simp [weight, Token.weight]; omega⟩)
  | .openParen :: .closeParen :: .arrow :: rest =>
    some (none, ⟨rest, by simp [weight, Token.weight]; omega⟩)
  | .openParen :: .ident name :: .closeParen :: .arrow :: rest =>
    some (some name, ⟨rest, by simp [weight, Token.weight]; omega⟩)
  | _ => none

/-! ## The grammar -/

mutual

/-- The expression of a whole text. -/
def parse (s : List Char) : Except Error Expr :=
  match tokenize s with
  | .error e => .error e
  | .ok ⟨[], _⟩ => .error (.parse .emptyExpression)
  | .ok ⟨t :: ts, _⟩ =>
    match expression (t :: ts) with
    | .error e => .error e
    | .ok ⟨e, rest, _⟩ =>
      match rest with
      | [] => .ok e
      | t :: _ => .error (.parse (.unexpected (some t)))
termination_by (s.length, 11)
decreasing_by simp only [Prod.lex_def]; omega

/-- An arrow function, or a condition with its two branches, or what stands in place of one. -/
def expression (ts : List Token) : Except Error (Parsed Expr (weight ts)) :=
  match arrowHead? ts with
  | some (param, ⟨body, h⟩) =>
    match expression body with
    | .error e => .error e
    | .ok ⟨e, rest, h'⟩ => .ok ⟨.arrow param e, rest, by omega⟩
  | none =>
    match binary 0 ts with
    | .error e => .error e
    | .ok ⟨test, r, h⟩ =>
      match eat? .question r with
      | none => .ok ⟨test, r, h⟩
      | some ⟨r, h'⟩ =>
        match expression r with
        | .error e => .error e
        | .ok ⟨consequent, r', h₁⟩ =>
          match expect .colon r' with
          | .error e => .error e
          | .ok ⟨r'', h₂⟩ =>
            match expression r'' with
            | .error e => .error e
            | .ok ⟨alternate, rest, h₃⟩ =>
              .ok ⟨.conditional test consequent alternate, rest, by omega⟩
termination_by (weight ts, 10)
decreasing_by all_goals simp [operandLevel, Prod.lex_def] <;> omega

/-- Operands joined by the operators of `level` or tighter ones. -/
def binary (level : Nat) (ts : List Token) : Except Error (Parsed Expr (weight ts)) :=
  if level < operandLevel then
    match binary (level + 1) ts with
    | .error e => .error e
    | .ok ⟨left, r, h⟩ =>
      match operands level left r with
      | .error e => .error e
      | .ok ⟨e, rest, h'⟩ => .ok ⟨e, rest, by omega⟩
  else unary ts
termination_by (weight ts, operandLevel - level + 2)
decreasing_by all_goals simp [operandLevel, Prod.lex_def] at * <;> omega

/-- The operators of `level` after a left operand, each with its right operand. -/
def operands (level : Nat) (left : Expr) (ts : List Token) :
    Except Error (Parsed Expr (weight ts + 1)) :=
  match ts with
  | [] => .ok ⟨left, [], by simp [weight]⟩
  | t :: r =>
    match operator? level t with
    | none => .ok ⟨left, t :: r, by omega⟩
    | some op =>
      have : weight r < weight (t :: r) := by have := t.weight_pos; simp [weight]; omega
      match binary (level + 1) r with
      | .error e => .error e
      | .ok ⟨right, r', h⟩ =>
        match operands level (op.apply left right) r' with
        | .error e => .error e
        | .ok ⟨e, rest, h'⟩ => .ok ⟨e, rest, by omega⟩
termination_by (weight ts, 0)
decreasing_by all_goals (simp [Prod.lex_def]; omega)

/-- Operators in front of an expression with its accesses and calls. -/
def unary (ts : List Token) : Except Error (Parsed Expr (weight ts)) :=
  match ts with
  | [] => .error (.parse (.unexpected none))
  | t :: r =>
    match unaryOp? t with
    | some op =>
      have : weight r < weight (t :: r) := by have := t.weight_pos; simp [weight]; omega
      match unary r with
      | .error e => .error e
      | .ok ⟨e, rest, h⟩ => .ok ⟨.unary op e, rest, by omega⟩
    | none =>
      match primary t r with
      | .error e => .error e
      | .ok ⟨e, r', h⟩ =>
        match accesses e r' with
        | .error e => .error e
        | .ok ⟨e, rest, h'⟩ => .ok ⟨e, rest, by simp [weight]; omega⟩
termination_by (weight ts, 1)
decreasing_by all_goals (simp [weight, Prod.lex_def] at *; omega)

/-- Accesses and calls after an expression. -/
def accesses (e : Expr) (ts : List Token) : Except Error (Parsed Expr (weight ts + 1)) :=
  match ts with
  | .dot :: r =>
    match propertyName r with
    | .error e => .error e
    | .ok ⟨name, r', h⟩ =>
      match accesses (.member e name false) r' with
      | .error e => .error e
      | .ok ⟨e, rest, h'⟩ => .ok ⟨e, rest, by simp [weight, Token.weight]; omega⟩
  | .questionDot :: .openBracket :: r =>
    match expression r with
    | .error e => .error e
    | .ok ⟨key, r', h⟩ =>
      match expect .closeBracket r' with
      | .error e => .error e
      | .ok ⟨r'', h'⟩ =>
        match accesses (.index e key true) r'' with
        | .error e => .error e
        | .ok ⟨e, rest, h''⟩ => .ok ⟨e, rest, by simp [weight, Token.weight]; omega⟩
  | .questionDot :: r =>
    match propertyName r with
    | .error e => .error e
    | .ok ⟨name, r', h⟩ =>
      match accesses (.member e name true) r' with
      | .error e => .error e
      | .ok ⟨e, rest, h'⟩ => .ok ⟨e, rest, by simp [weight, Token.weight]; omega⟩
  | .openBracket :: r =>
    match expression r with
    | .error e => .error e
    | .ok ⟨key, r', h⟩ =>
      match expect .closeBracket r' with
      | .error e => .error e
      | .ok ⟨r'', h'⟩ =>
        match accesses (.index e key false) r'' with
        | .error e => .error e
        | .ok ⟨e, rest, h''⟩ => .ok ⟨e, rest, by simp [weight, Token.weight]; omega⟩
  | .openParen :: r =>
    match commaList .closeParen r with
    | .error e => .error e
    | .ok ⟨args, r', h⟩ =>
      match accesses (.call e args) r' with
      | .error e => .error e
      | .ok ⟨e, rest, h'⟩ => .ok ⟨e, rest, by simp [weight, Token.weight]; omega⟩
  | ts => .ok ⟨e, ts, by omega⟩
termination_by (weight ts, 0)
decreasing_by all_goals simp_all [weight, Token.weight, Prod.lex_def] <;> omega

/-- A literal, a name, or something in brackets that starts with `t`. -/
def primary (t : Token) (ts : List Token) : Except Error (Parsed Expr (weight ts + t.weight)) :=
  match t with
  | .number n => .ok ⟨.literal (.ofNumber n), ts, by simp [Token.weight]⟩
  | .string s => .ok ⟨.literal (.string (String.ofList s)), ts, by simp [Token.weight]⟩
  | .template chunks =>
    match templatePieces chunks with
    | .error e => .error e
    | .ok pieces => .ok ⟨.template pieces, ts, by simp [Token.weight]⟩
  | .ident name => .ok ⟨ofName name, ts, by simp [Token.weight]⟩
  | .openParen =>
    match expression ts with
    | .error e => .error e
    | .ok ⟨e, r, h⟩ =>
      match expect .closeParen r with
      | .error e => .error e
      | .ok ⟨rest, h'⟩ => .ok ⟨e, rest, by omega⟩
  | .openBracket =>
    match commaList .closeBracket ts with
    | .error e => .error e
    | .ok ⟨items, rest, h⟩ => .ok ⟨.array items, rest, by omega⟩
  | .openBrace =>
    match entries ts with
    | .error e => .error e
    | .ok ⟨entries, rest, h⟩ => .ok ⟨.object entries, rest, by omega⟩
  | t => .error (.parse (.unexpected (some t)))
termination_by (weight ts + t.weight, 0)
decreasing_by all_goals simp_all [Token.weight, Prod.lex_def] <;> omega

/-- Expressions with commas between them up to `close`; a comma may also stand at the end. -/
def commaList (close : Token) (ts : List Token) : Except Error (Parsed (List Expr) (weight ts)) :=
  match ts with
  | [] => .error (.parse (.unexpected none))
  | t :: r =>
    if t = close then .ok ⟨[], r, by have := t.weight_pos; simp [weight]; omega⟩
    else
      match expression (t :: r) with
      | .error e => .error e
      | .ok ⟨e, r', h⟩ =>
        match eat? .comma r' with
        | some ⟨r'', h'⟩ =>
          match commaList close r'' with
          | .error e => .error e
          | .ok ⟨items, rest, h''⟩ => .ok ⟨e :: items, rest, by omega⟩
        | none =>
          match expect close r' with
          | .error e => .error e
          | .ok ⟨rest, h'⟩ => .ok ⟨[e], rest, by omega⟩
termination_by (weight ts, 11)
decreasing_by all_goals simp [Prod.lex_def] <;> omega

/-- The entries of an object up to its closing brace. -/
def entries (ts : List Token) : Except Error (Parsed (List (String × Expr)) (weight ts)) :=
  match ts with
  | [] => .error (.parse .unterminatedObject)
  | .closeBrace :: r => .ok ⟨[], r, by simp [weight, Token.weight]⟩
  | t :: r =>
    match entryKey? t with
    | none => .error (.parse (.invalidKey t))
    | some key =>
      match expect .colon r with
      | .error e => .error e
      | .ok ⟨r₁, h₁⟩ =>
        have : weight r₁ < weight (t :: r) := by simp [weight]; omega
        match expression r₁ with
        | .error e => .error e
        | .ok ⟨e, r₂, h₂⟩ =>
          match eat? .comma r₂ with
          | some ⟨r₃, h₃⟩ =>
            match entries r₃ with
            | .error e => .error e
            | .ok ⟨more, rest, h₄⟩ => .ok ⟨(key, e) :: more, rest, by omega⟩
          | none =>
            match expect .closeBrace r₂ with
            | .error e => .error e
            | .ok ⟨rest, h₃⟩ => .ok ⟨[(key, e)], rest, by omega⟩
termination_by (weight ts, 11)
decreasing_by all_goals (simp [Prod.lex_def]; omega)

/-- The pieces of a template. -/
def templatePieces (chunks : List Chunk) : Except Error (List Piece) :=
  match chunks with
  | [] => .ok []
  | .text s :: chunks =>
    match templatePieces chunks with
    | .error e => .error e
    | .ok pieces => .ok (.text s :: pieces)
  | .source s :: chunks =>
    match parse s with
    | .error e => .error e
    | .ok e =>
      match templatePieces chunks with
      | .error e => .error e
      | .ok pieces => .ok (.expr e :: pieces)
termination_by (chunksWeight chunks, chunks.length)
decreasing_by all_goals simp_all [chunksWeight, Chunk.weight, Prod.lex_def] <;> omega

end

end Formulary.Script
