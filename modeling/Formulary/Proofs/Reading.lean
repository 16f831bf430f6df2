import Formulary.Proofs.Seam

/-!
# What the parser reads

The readers of the parser as relations between tokens, what is built from them and the tokens that
are left. They say what is read and nothing about how the recursion ends, so proofs about the parser
go by induction on a reading.

* `reads_iff`: the parser builds an expression exactly when there is such a reading.
* `parse_eq_ok_iff`: so a text parses when its tokens are read to their end.
-/

namespace Formulary.Script

/-- Tokens with which accesses and calls begin. -/
def startsAccess : Token → Bool
  | .dot | .questionDot | .openBracket | .openParen => true
  | _ => false

mutual

/-- An arrow function, a condition with its branches, or what stands in place of one. -/
inductive ReadsExpression : List Token → Expr → List Token → Prop
  | arrow {ts : List Token} {param : Option String} {body} {e : Expr} {rest : List Token}
    (head : arrowHead? ts = some (param, body)) (read : ReadsExpression body.1 e rest) :
    ReadsExpression ts (.arrow param e) rest
  | plain {ts : List Token} {e : Expr} {rest : List Token} (head : arrowHead? ts = none)
    (read : ReadsBinary 0 ts e rest) (ends : rest.head? ≠ some .question) :
    ReadsExpression ts e rest
  | conditional {ts r r' rest : List Token} {test consequent alternate : Expr}
    (head : arrowHead? ts = none) (first : ReadsBinary 0 ts test (.question :: r))
    (second : ReadsExpression r consequent (.colon :: r'))
    (third : ReadsExpression r' alternate rest) :
    ReadsExpression ts (.conditional test consequent alternate) rest

/-- Operands joined by the operators of a level or tighter ones. -/
inductive ReadsBinary : Nat → List Token → Expr → List Token → Prop
  | operand {level : Nat} {ts : List Token} {e : Expr} {rest : List Token}
    (top : ¬ level < operandLevel) (read : ReadsUnary ts e rest) : ReadsBinary level ts e rest
  | chain {level : Nat} {ts r : List Token} {left e : Expr} {rest : List Token}
    (inner : level < operandLevel) (first : ReadsBinary (level + 1) ts left r)
    (more : ReadsOperands level left r e rest) : ReadsBinary level ts e rest

/-- The operators of a level after a left operand, each with its right operand. -/
inductive ReadsOperands : Nat → Expr → List Token → Expr → List Token → Prop
  | done {level : Nat} {left : Expr} {rest : List Token}
    (ends : ∀ t ∈ rest.head?, operator? level t = none) :
    ReadsOperands level left rest left rest
  | more {level : Nat} {left right e : Expr} {t : Token} {op : Operator}
    {r r' rest : List Token} (operator : operator? level t = some op)
    (next : ReadsBinary (level + 1) r right r')
    (others : ReadsOperands level (op.apply left right) r' e rest) :
    ReadsOperands level left (t :: r) e rest

/-- Operators in front of an expression with its accesses and calls. -/
inductive ReadsUnary : List Token → Expr → List Token → Prop
  | operator {t : Token} {op : UnaryOp} {r rest : List Token} {e : Expr}
    (operator : unaryOp? t = some op) (read : ReadsUnary r e rest) :
    ReadsUnary (t :: r) (.unary op e) rest
  | operand {t : Token} {r r' rest : List Token} {e e' : Expr} (operator : unaryOp? t = none)
    (first : ReadsPrimary t r e r') (more : ReadsAccesses e r' e' rest) :
    ReadsUnary (t :: r) e' rest

/-- Accesses and calls after an expression. -/
inductive ReadsAccesses : Expr → List Token → Expr → List Token → Prop
  | done {e : Expr} {rest : List Token} (ends : ∀ t ∈ rest.head?, startsAccess t = false) :
    ReadsAccesses e rest e rest
  | member {e e' : Expr} {name : String} {r rest : List Token}
    (others : ReadsAccesses (.member e name false) r e' rest) :
    ReadsAccesses e (.dot :: .ident name :: r) e' rest
  | optionalMember {e e' : Expr} {name : String} {r rest : List Token}
    (others : ReadsAccesses (.member e name true) r e' rest) :
    ReadsAccesses e (.questionDot :: .ident name :: r) e' rest
  | index {e e' key : Expr} {r r' rest : List Token}
    (inner : ReadsExpression r key (.closeBracket :: r'))
    (others : ReadsAccesses (.index e key false) r' e' rest) :
    ReadsAccesses e (.openBracket :: r) e' rest
  | optionalIndex {e e' key : Expr} {r r' rest : List Token}
    (inner : ReadsExpression r key (.closeBracket :: r'))
    (others : ReadsAccesses (.index e key true) r' e' rest) :
    ReadsAccesses e (.questionDot :: .openBracket :: r) e' rest
  | call {e e' : Expr} {args : List Expr} {r r' rest : List Token}
    (inner : ReadsList .closeParen r args r') (others : ReadsAccesses (.call e args) r' e' rest) :
    ReadsAccesses e (.openParen :: r) e' rest

/-- A literal, a name, or something in brackets. -/
inductive ReadsPrimary : Token → List Token → Expr → List Token → Prop
  | number {n : Binary64} {rest : List Token} :
    ReadsPrimary (.number n) rest (.literal (.ofNumber n)) rest
  | string {s : List Char} {rest : List Token} :
    ReadsPrimary (.string s) rest (.literal (.string (String.ofList s))) rest
  | template {chunks : List Chunk} {pieces : List Piece} {rest : List Token}
    (parts : templatePieces chunks = .ok pieces) :
    ReadsPrimary (.template chunks) rest (.template pieces) rest
  | ident {name : String} {rest : List Token} : ReadsPrimary (.ident name) rest (ofName name) rest
  | parens {e : Expr} {r rest : List Token} (inner : ReadsExpression r e (.closeParen :: rest)) :
    ReadsPrimary .openParen r e rest
  | array {items : List Expr} {r rest : List Token} (inner : ReadsList .closeBracket r items rest) :
    ReadsPrimary .openBracket r (.array items) rest
  | object {members : List (String × Expr)} {r rest : List Token}
    (inner : ReadsEntries r members rest) : ReadsPrimary .openBrace r (.object members) rest

/-- Expressions with commas between them up to a closing token. -/
inductive ReadsList : Token → List Token → List Expr → List Token → Prop
  | done {close : Token} {rest : List Token} : ReadsList close (close :: rest) [] rest
  | last {close : Token} {ts rest : List Token} {e : Expr} (opens : ts.head? ≠ some close)
    (notComma : close ≠ .comma) (item : ReadsExpression ts e (close :: rest)) :
    ReadsList close ts [e] rest
  | more {close : Token} {ts r rest : List Token} {e : Expr} {items : List Expr}
    (opens : ts.head? ≠ some close) (item : ReadsExpression ts e (.comma :: r))
    (others : ReadsList close r items rest) : ReadsList close ts (e :: items) rest

/-- The entries of an object up to its closing brace. -/
inductive ReadsEntries : List Token → List (String × Expr) → List Token → Prop
  | done {rest : List Token} : ReadsEntries (.closeBrace :: rest) [] rest
  | last {t : Token} {key : String} {r rest : List Token} {e : Expr}
    (named : entryKey? t = some key) (value : ReadsExpression r e (.closeBrace :: rest)) :
    ReadsEntries (t :: .colon :: r) [(key, e)] rest
  | more {t : Token} {key : String} {r r' rest : List Token} {e : Expr}
    {members : List (String × Expr)} (named : entryKey? t = some key)
    (value : ReadsExpression r e (.comma :: r')) (others : ReadsEntries r' members rest) :
    ReadsEntries (t :: .colon :: r) ((key, e) :: members) rest

end

/-! ## Single tokens -/

theorem weight_lt_cons (t : Token) (ts : List Token) : weight ts < weight (t :: ts) := by
  have := t.weight_pos
  rw [weight]
  omega

theorem eat?_of_head {wanted : Token} {ts : List Token} (h : ts.head? ≠ some wanted) :
    eat? wanted ts = none := by
  cases ts with
  | nil => rfl
  | cons t ts =>
    have other : t ≠ wanted := fun same => h (congrArg some same)
    simp [eat?, other]

theorem eat?_self (wanted : Token) (ts : List Token) :
    ∃ h, eat? wanted (wanted :: ts) = some ⟨ts, h⟩ := by
  exact ⟨weight_lt_cons wanted ts, if_pos rfl⟩

theorem expect_self (wanted : Token) (ts : List Token) :
    ∃ h, expect wanted (wanted :: ts) = .ok ⟨ts, h⟩ := by
  exact ⟨weight_lt_cons wanted ts, if_pos rfl⟩

/-! ## How a reading starts -/

theorem ReadsUnary.starts {ts : List Token} {e : Expr} {rest : List Token}
    (reads : ReadsUnary ts e rest) :
    ∃ t r, ts = t :: r ∧ t ≠ .closeBracket ∧ t ≠ .closeParen := by
  cases reads with
  | operator isOperator read =>
    refine ⟨_, _, rfl, ?_, ?_⟩
    all_goals
      rintro rfl
      cases isOperator
  | operand notOperator first more =>
    refine ⟨_, _, rfl, ?_, ?_⟩
    all_goals
      rintro rfl
      cases first

/-- Operands start with an operand. -/
theorem ReadsBinary.first : ∀ {level : Nat} {ts : List Token} {e : Expr} {rest : List Token},
    ReadsBinary level ts e rest → ∃ e' rest', ReadsUnary ts e' rest'
  | _, _, _, _, .operand _ read => ⟨_, _, read⟩
  | _, _, _, _, .chain _ first _ => first.first

/-- An expression starts with a token, and with none that closes brackets. -/
theorem ReadsExpression.starts {ts : List Token} {e : Expr} {rest : List Token}
    (reads : ReadsExpression ts e rest) :
    ∃ t r, ts = t :: r ∧ t ≠ .closeBracket ∧ t ≠ .closeParen := by
  cases reads with
  | arrow head read =>
    cases ts with
    | nil => cases head
    | cons t r =>
      refine ⟨t, r, rfl, ?_, ?_⟩
      all_goals
        rintro rfl
        cases head
  | plain head read ends =>
    obtain ⟨_, _, first⟩ := read.first
    exact first.starts
  | conditional head first second third =>
    obtain ⟨_, _, first⟩ := first.first
    exact first.starts

theorem ReadsExpression.ne_nil {ts : List Token} {e : Expr} {rest : List Token}
    (reads : ReadsExpression ts e rest) : ts ≠ [] := by
  obtain ⟨t, r, rfl, -⟩ := reads.starts
  exact List.cons_ne_nil t r

theorem ReadsExpression.head_ne {ts : List Token} {e : Expr} {rest : List Token}
    (reads : ReadsExpression ts e rest) : ts.head? ≠ some .closeBracket := by
  obtain ⟨t, r, rfl, other, -⟩ := reads.starts
  exact fun same => other (Option.some.inj same)

theorem ReadsPrimary.unaryOp?_eq_none {t : Token} {ts : List Token} {e : Expr} {rest : List Token}
    (reads : ReadsPrimary t ts e rest) : unaryOp? t = none := by
  cases reads <;> rfl

/-! ## How a reading ends -/

/-- Tokens with which neither an access or a call nor the operators of a level and of tighter ones
go on. -/
def Stops (level : Nat) (rest : List Token) : Prop :=
  ∀ t ∈ rest.head?, startsAccess t = false ∧ ∀ l, level ≤ l → operator? l t = none

theorem Stops.mono {level level' : Nat} {rest : List Token} (stops : Stops level rest)
    (tighter : level ≤ level') : Stops level' rest :=
  fun t first => ⟨(stops t first).1, fun l above =>
    (stops t first).2 l (Nat.le_trans tighter above)⟩

theorem Stops.accesses {level : Nat} {rest : List Token} (stops : Stops level rest) (e : Expr) :
    ReadsAccesses e rest e rest :=
  .done fun t first => (stops t first).1

theorem Stops.operands {level : Nat} {rest : List Token} (stops : Stops level rest) (e : Expr) :
    ReadsOperands level e rest e rest :=
  .done fun t first => (stops t first).2 level (Nat.le_refl _)

/-- An operand stands for operands of any level where no operator follows. -/
theorem ReadsUnary.binary {level : Nat} {ts rest : List Token} {e : Expr}
    (reads : ReadsUnary ts e rest) (stops : Stops level rest) : ReadsBinary level ts e rest := by
  by_cases inner : level < operandLevel
  · exact .chain inner (reads.binary (stops.mono (Nat.le_succ level))) (stops.operands e)
  · exact .operand inner reads
termination_by operandLevel - level

/-! ## Every reading is built -/

mutual

theorem ReadsExpression.built : ∀ {ts : List Token} {e : Expr} {rest : List Token},
    ReadsExpression ts e rest → ∃ h, expression ts = .ok ⟨e, rest, h⟩
  | _, _, _, .arrow head read => by
    obtain ⟨_, built⟩ := read.built
    rw [expression, head]
    dsimp only
    rw [built]
    exact ⟨_, rfl⟩
  | _, _, _, .plain head read ends => by
    obtain ⟨_, built⟩ := read.built
    rw [expression, head]
    dsimp only
    rw [built]
    dsimp only
    rw [eat?_of_head ends]
    exact ⟨_, rfl⟩
  | _, _, _, .conditional head first second third => by
    obtain ⟨_, test⟩ := first.built
    obtain ⟨_, consequent⟩ := second.built
    obtain ⟨_, alternate⟩ := third.built
    obtain ⟨_, question⟩ := eat?_self .question _
    obtain ⟨_, colon⟩ := expect_self .colon _
    rw [expression, head]
    dsimp only
    rw [test]
    dsimp only
    rw [question]
    dsimp only
    rw [consequent]
    dsimp only
    rw [colon]
    dsimp only
    rw [alternate]
    exact ⟨_, rfl⟩

theorem ReadsBinary.built : ∀ {level : Nat} {ts : List Token} {e : Expr} {rest : List Token},
    ReadsBinary level ts e rest → ∃ h, binary level ts = .ok ⟨e, rest, h⟩
  | _, _, _, _, .operand top read => by
    obtain ⟨_, built⟩ := read.built
    rw [binary, if_neg top, built]
    exact ⟨_, rfl⟩
  | _, _, _, _, .chain inner first more => by
    obtain ⟨_, first⟩ := first.built
    obtain ⟨_, more⟩ := more.built
    rw [binary, if_pos inner, first]
    dsimp only
    rw [more]
    exact ⟨_, rfl⟩

theorem ReadsOperands.built : ∀ {level : Nat} {left : Expr} {ts : List Token} {e : Expr}
    {rest : List Token}, ReadsOperands level left ts e rest →
      ∃ h, operands level left ts = .ok ⟨e, rest, h⟩
  | _, _, [], _, _, .done _ => by
    rw [operands]
    exact ⟨_, rfl⟩
  | _, _, t :: _, _, _, .done ends => by
    rw [operands, ends t rfl]
    exact ⟨_, rfl⟩
  | _, _, _, _, _, .more operator next others => by
    obtain ⟨_, next⟩ := next.built
    obtain ⟨_, others⟩ := others.built
    rw [operands, operator]
    dsimp only
    rw [next]
    dsimp only
    rw [others]
    exact ⟨_, rfl⟩

theorem ReadsUnary.built : ∀ {ts : List Token} {e : Expr} {rest : List Token},
    ReadsUnary ts e rest → ∃ h, unary ts = .ok ⟨e, rest, h⟩
  | _, _, _, .operator operator read => by
    obtain ⟨_, built⟩ := read.built
    rw [unary, operator]
    dsimp only
    rw [built]
    exact ⟨_, rfl⟩
  | _, _, _, .operand operator first more => by
    obtain ⟨_, first⟩ := first.built
    obtain ⟨_, more⟩ := more.built
    rw [unary, operator]
    dsimp only
    rw [first]
    dsimp only
    rw [more]
    exact ⟨_, rfl⟩

theorem ReadsAccesses.built : ∀ {e : Expr} {ts : List Token} {e' : Expr} {rest : List Token},
    ReadsAccesses e ts e' rest → ∃ h, accesses e ts = .ok ⟨e', rest, h⟩
  | _, _, _, _, .done ends => by
    refine ⟨Nat.lt_succ_self _, ?_⟩
    rw [accesses.eq_def]
    split
    · cases ends _ rfl
    · cases ends _ rfl
    · cases ends _ rfl
    · cases ends _ rfl
    · cases ends _ rfl
    · rfl
  | _, _, _, _, .member others => by
    obtain ⟨_, others⟩ := others.built
    rw [accesses]
    dsimp only [propertyName]
    rw [others]
    exact ⟨_, rfl⟩
  | _, _, _, _, .optionalMember others => by
    obtain ⟨_, others⟩ := others.built
    rw [accesses]
    · dsimp only [propertyName]
      rw [others]
      exact ⟨_, rfl⟩
    · simp
  | _, _, _, _, .index inner others => by
    obtain ⟨_, inner⟩ := inner.built
    obtain ⟨_, others⟩ := others.built
    obtain ⟨_, bracket⟩ := expect_self .closeBracket _
    rw [accesses, inner]
    dsimp only
    rw [bracket]
    dsimp only
    rw [others]
    exact ⟨_, rfl⟩
  | _, _, _, _, .optionalIndex inner others => by
    obtain ⟨_, inner⟩ := inner.built
    obtain ⟨_, others⟩ := others.built
    obtain ⟨_, bracket⟩ := expect_self .closeBracket _
    rw [accesses, inner]
    dsimp only
    rw [bracket]
    dsimp only
    rw [others]
    exact ⟨_, rfl⟩
  | _, _, _, _, .call inner others => by
    obtain ⟨_, inner⟩ := inner.built
    obtain ⟨_, others⟩ := others.built
    rw [accesses, inner]
    dsimp only
    rw [others]
    exact ⟨_, rfl⟩

theorem ReadsPrimary.built : ∀ {t : Token} {ts : List Token} {e : Expr} {rest : List Token},
    ReadsPrimary t ts e rest → ∃ h, primary t ts = .ok ⟨e, rest, h⟩
  | _, _, _, _, .number => by
    rw [primary]
    exact ⟨_, rfl⟩
  | _, _, _, _, .string => by
    rw [primary]
    exact ⟨_, rfl⟩
  | _, _, _, _, .template parts => by
    rw [primary, parts]
    exact ⟨_, rfl⟩
  | _, _, _, _, .ident => by
    rw [primary]
    exact ⟨_, rfl⟩
  | _, _, _, _, .parens inner => by
    obtain ⟨_, inner⟩ := inner.built
    obtain ⟨_, paren⟩ := expect_self .closeParen _
    rw [primary, inner]
    dsimp only
    rw [paren]
    exact ⟨_, rfl⟩
  | _, _, _, _, .array inner => by
    obtain ⟨_, inner⟩ := inner.built
    rw [primary, inner]
    exact ⟨_, rfl⟩
  | _, _, _, _, .object inner => by
    obtain ⟨_, inner⟩ := inner.built
    rw [primary, inner]
    exact ⟨_, rfl⟩

theorem ReadsList.built : ∀ {close : Token} {ts : List Token} {items : List Expr}
    {rest : List Token}, ReadsList close ts items rest →
      ∃ h, commaList close ts = .ok ⟨items, rest, h⟩
  | _, _, _, _, .done => by
    rw [commaList, if_pos rfl]
    exact ⟨_, rfl⟩
  | _, [], _, _, .last _ _ item => absurd rfl item.ne_nil
  | close, t :: ts, _, rest, .last opens notComma item => by
    obtain ⟨_, item⟩ := item.built
    obtain ⟨_, closed⟩ := expect_self close rest
    have alone : eat? .comma (close :: rest) = none :=
      eat?_of_head fun same => notComma (Option.some.inj same)
    rw [commaList, if_neg fun same => opens (congrArg some same), item]
    dsimp only
    rw [alone]
    dsimp only
    rw [closed]
    exact ⟨_, rfl⟩
  | _, [], _, _, .more _ item _ => absurd rfl item.ne_nil
  | close, t :: ts, _, _, .more opens item others => by
    obtain ⟨_, item⟩ := item.built
    obtain ⟨_, others⟩ := others.built
    obtain ⟨_, comma⟩ := eat?_self .comma _
    rw [commaList, if_neg fun same => opens (congrArg some same), item]
    dsimp only
    rw [comma]
    dsimp only
    rw [others]
    exact ⟨_, rfl⟩

theorem ReadsEntries.built : ∀ {ts : List Token} {members : List (String × Expr)}
    {rest : List Token}, ReadsEntries ts members rest →
      ∃ h, entries ts = .ok ⟨members, rest, h⟩
  | _, _, _, .done => by
    rw [entries]
    exact ⟨_, rfl⟩
  | _, _, rest, .last named value => by
    obtain ⟨_, value⟩ := value.built
    obtain ⟨_, colon⟩ := expect_self .colon _
    obtain ⟨_, closed⟩ := expect_self .closeBrace _
    have alone : eat? .comma (.closeBrace :: rest) = none := eat?_of_head (by simp)
    rw [entries, named]
    · dsimp only
      rw [colon]
      dsimp only
      rw [value]
      dsimp only
      rw [alone]
      dsimp only
      rw [closed]
      exact ⟨_, rfl⟩
    · rintro rfl
      cases named
  | _, _, _, .more named value others => by
    obtain ⟨_, value⟩ := value.built
    obtain ⟨_, others⟩ := others.built
    obtain ⟨_, colon⟩ := expect_self .colon _
    obtain ⟨_, comma⟩ := eat?_self .comma _
    rw [entries, named]
    · dsimp only
      rw [colon]
      dsimp only
      rw [value]
      dsimp only
      rw [comma]
      dsimp only
      rw [others]
      exact ⟨_, rfl⟩
    · rintro rfl
      cases named

end

/-! ## What is built was read -/

theorem head?_of_eat? {wanted : Token} {ts : List Token} (h : eat? wanted ts = none) :
    ts.head? ≠ some wanted := by
  intro first
  obtain ⟨r, rfl⟩ := List.head?_eq_some_iff.1 first
  obtain ⟨_, eaten⟩ := eat?_self wanted r
  rw [h] at eaten
  cases eaten

theorem cons_of_eat? {wanted : Token} {ts r : List Token} {h}
    (eaten : eat? wanted ts = some ⟨r, h⟩) : ts = wanted :: r := by
  by_cases first : ts.head? = some wanted
  · obtain ⟨r', rfl⟩ := List.head?_eq_some_iff.1 first
    obtain ⟨_, self⟩ := eat?_self wanted r'
    rw [self] at eaten
    cases eaten
    rfl
  · rw [eat?_of_head first] at eaten
    cases eaten

theorem cons_of_expect {wanted : Token} {ts r : List Token} {h}
    (met : expect wanted ts = .ok ⟨r, h⟩) : ts = wanted :: r := by
  cases ts with
  | nil => cases met
  | cons t ts =>
    by_cases same : t = wanted
    · subst same
      obtain ⟨_, self⟩ := expect_self t ts
      rw [self] at met
      cases met
      rfl
    · have missed : expect wanted (t :: ts) = .error (.parse (.expected wanted (some t))) :=
        if_neg same
      rw [missed] at met
      cases met

theorem cons_of_propertyName {ts r : List Token} {name : String} {h}
    (named : propertyName ts = .ok ⟨name, r, h⟩) : ts = .ident name :: r := by
  unfold propertyName at named
  split at named
  · cases named
    rfl
  · cases named
  · cases named

mutual

theorem reads_of_expression {ts : List Token} {e : Expr} {rest : List Token} {h}
    (built : expression ts = .ok ⟨e, rest, h⟩) : ReadsExpression ts e rest := by
  rw [expression] at built
  split at built
  · rename_i param body lighter head
    split at built
    · cases built
    · rename_i e' rest' lighter' inner
      cases built
      exact .arrow head (reads_of_expression inner)
  · rename_i head
    split at built
    · cases built
    · rename_i test r lighter first
      split at built
      · rename_i ends
        cases built
        exact .plain head (reads_of_binary first) (head?_of_eat? ends)
      · rename_i r₁ lighter₁ question
        obtain rfl := cons_of_eat? question
        split at built
        · cases built
        · rename_i consequent r₂ lighter₂ second
          split at built
          · cases built
          · rename_i r₃ lighter₃ colon
            obtain rfl := cons_of_expect colon
            split at built
            · cases built
            · rename_i alternate r₄ lighter₄ third
              cases built
              exact .conditional head (reads_of_binary first) (reads_of_expression second)
                (reads_of_expression third)
termination_by (weight ts, 10)
decreasing_by all_goals (subst_vars; simp only [Prod.lex_def, operandLevel, true_and]; omega)

theorem reads_of_binary {level : Nat} {ts : List Token} {e : Expr} {rest : List Token} {h}
    (built : binary level ts = .ok ⟨e, rest, h⟩) : ReadsBinary level ts e rest := by
  rw [binary] at built
  split at built
  · rename_i inner
    have tighter : operandLevel - (level + 1) + 2 < operandLevel - level + 2 := by omega
    split at built
    · cases built
    · rename_i left r lighter first
      split at built
      · cases built
      · rename_i e' rest' lighter' more
        cases built
        exact .chain inner (reads_of_binary first) (reads_of_operands more)
  · rename_i top
    exact .operand top (reads_of_unary built)
termination_by (weight ts, operandLevel - level + 2)
decreasing_by all_goals (simp only [Prod.lex_def, true_and]; omega)

theorem reads_of_operands {level : Nat} {left : Expr} {ts : List Token} {e : Expr}
    {rest : List Token} {h} (built : operands level left ts = .ok ⟨e, rest, h⟩) :
    ReadsOperands level left ts e rest := by
  rw [operands.eq_def] at built
  split at built
  · cases built
    exact .done fun t first => by cases first
  · rename_i t r
    have smaller := weight_lt_cons t r
    split at built
    · rename_i ends
      cases built
      refine .done fun t' first => ?_
      cases first
      exact ends
    · rename_i op operator
      dsimp only at built
      split at built
      · cases built
      · rename_i right r' lighter next
        split at built
        · cases built
        · rename_i e' rest' lighter' others
          cases built
          exact .more operator (reads_of_binary next) (reads_of_operands others)
termination_by (weight ts, 0)
decreasing_by all_goals (subst_vars; simp only [Prod.lex_def]; omega)

theorem reads_of_unary {ts : List Token} {e : Expr} {rest : List Token} {h}
    (built : unary ts = .ok ⟨e, rest, h⟩) : ReadsUnary ts e rest := by
  rw [unary.eq_def] at built
  split at built
  · cases built
  · rename_i t r
    have smaller := weight_lt_cons t r
    have whole : weight (t :: r) = t.weight + weight r := rfl
    split at built
    · rename_i op operator
      dsimp only at built
      split at built
      · cases built
      · rename_i e' rest' lighter inner
        cases built
        exact .operator operator (reads_of_unary inner)
    · rename_i operator
      split at built
      · cases built
      · rename_i e' r' lighter first
        split at built
        · cases built
        · rename_i e'' rest' lighter' more
          cases built
          exact .operand operator (reads_of_primary first) (reads_of_accesses more)
termination_by (weight ts, 1)
decreasing_by all_goals (subst_vars; simp only [Prod.lex_def]; omega)

theorem reads_of_accesses {e : Expr} {ts : List Token} {e' : Expr} {rest : List Token} {h}
    (built : accesses e ts = .ok ⟨e', rest, h⟩) : ReadsAccesses e ts e' rest := by
  rw [accesses.eq_def] at built
  split at built
  · rename_i r
    have smaller := weight_lt_cons .dot r
    split at built
    · cases built
    · rename_i name r' lighter named
      obtain rfl := cons_of_propertyName named
      split at built
      · cases built
      · rename_i e'' rest' lighter' others
        cases built
        exact .member (reads_of_accesses others)
  · rename_i r
    have smaller := weight_lt_cons .questionDot (.openBracket :: r)
    have smaller' := weight_lt_cons .openBracket r
    split at built
    · cases built
    · rename_i key r' lighter inner
      split at built
      · cases built
      · rename_i r'' lighter' bracket
        obtain rfl := cons_of_expect bracket
        split at built
        · cases built
        · rename_i e'' rest' lighter'' others
          cases built
          exact .optionalIndex (reads_of_expression inner) (reads_of_accesses others)
  · rename_i r _
    have smaller := weight_lt_cons .questionDot r
    split at built
    · cases built
    · rename_i name r' lighter named
      obtain rfl := cons_of_propertyName named
      split at built
      · cases built
      · rename_i e'' rest' lighter' others
        cases built
        exact .optionalMember (reads_of_accesses others)
  · rename_i r
    have smaller := weight_lt_cons .openBracket r
    split at built
    · cases built
    · rename_i key r' lighter inner
      split at built
      · cases built
      · rename_i r'' lighter' bracket
        obtain rfl := cons_of_expect bracket
        split at built
        · cases built
        · rename_i e'' rest' lighter'' others
          cases built
          exact .index (reads_of_expression inner) (reads_of_accesses others)
  · rename_i r
    have smaller := weight_lt_cons .openParen r
    split at built
    · cases built
    · rename_i args r' lighter inner
      split at built
      · cases built
      · rename_i e'' rest' lighter' others
        cases built
        exact .call (reads_of_commaList (by simp) inner) (reads_of_accesses others)
  · rename_i notDot notOptionalIndex notOptional notIndex notCall
    cases built
    refine .done fun t first => ?_
    obtain ⟨r, rfl⟩ := List.head?_eq_some_iff.1 first
    cases t with
    | dot => exact absurd rfl (notDot r)
    | questionDot => exact absurd rfl (notOptional r)
    | openBracket => exact absurd rfl (notIndex r)
    | openParen => exact absurd rfl (notCall r)
    | _ => rfl
termination_by (weight ts, 0)
decreasing_by all_goals (subst_vars; simp only [Prod.lex_def]; omega)

theorem reads_of_primary {t : Token} {ts : List Token} {e : Expr} {rest : List Token} {h}
    (built : primary t ts = .ok ⟨e, rest, h⟩) : ReadsPrimary t ts e rest := by
  have heavy := t.weight_pos
  rw [primary.eq_def] at built
  split at built
  · cases built
    exact .number
  · cases built
    exact .string
  · split at built
    · cases built
    · rename_i pieces parts
      cases built
      exact .template parts
  · cases built
    exact .ident
  · split at built
    · cases built
    · rename_i e' r lighter inner
      split at built
      · cases built
      · rename_i rest' lighter' paren
        obtain rfl := cons_of_expect paren
        cases built
        exact .parens (reads_of_expression inner)
  · split at built
    · cases built
    · rename_i items rest' lighter inner
      cases built
      exact .array (reads_of_commaList (by simp) inner)
  · split at built
    · cases built
    · rename_i members rest' lighter inner
      cases built
      exact .object (reads_of_entries inner)
  · cases built
termination_by (weight ts + t.weight, 0)
decreasing_by all_goals (subst_vars; simp only [Prod.lex_def]; omega)

theorem reads_of_commaList {close : Token} {ts : List Token} {items : List Expr}
    {rest : List Token} {h} (notComma : close ≠ .comma)
    (built : commaList close ts = .ok ⟨items, rest, h⟩) :
    ReadsList close ts items rest := by
  rw [commaList.eq_def] at built
  split at built
  · cases built
  · rename_i t r
    split at built
    · rename_i closes
      cases built
      rw [closes]
      exact .done
    · rename_i opens
      have opens : (t :: r).head? ≠ some close := fun same => opens (Option.some.inj same)
      split at built
      · cases built
      · rename_i e r' lighter item
        split at built
        · rename_i r'' lighter' comma
          obtain rfl := cons_of_eat? comma
          split at built
          · cases built
          · rename_i items' rest' lighter'' others
            cases built
            exact .more opens (reads_of_expression item) (reads_of_commaList notComma others)
        · split at built
          · cases built
          · rename_i rest' lighter' closed
            obtain rfl := cons_of_expect closed
            cases built
            exact .last opens notComma (reads_of_expression item)
termination_by (weight ts, 11)
decreasing_by all_goals (subst_vars; simp only [Prod.lex_def, true_and]; omega)

theorem reads_of_entries {ts : List Token} {members : List (String × Expr)}
    {rest : List Token} {h} (built : entries ts = .ok ⟨members, rest, h⟩) :
    ReadsEntries ts members rest := by
  rw [entries.eq_def] at built
  split at built
  · cases built
  · cases built
    exact .done
  · rename_i t r _
    have smaller := weight_lt_cons t r
    split at built
    · cases built
    · rename_i key named
      split at built
      · cases built
      · rename_i r₁ lighter₁ colon
        obtain rfl := cons_of_expect colon
        dsimp only at built
        split at built
        · cases built
        · rename_i e r₂ lighter₂ value
          split at built
          · rename_i r₃ lighter₃ comma
            obtain rfl := cons_of_eat? comma
            split at built
            · cases built
            · rename_i more rest' lighter₄ others
              cases built
              exact .more named (reads_of_expression value) (reads_of_entries others)
          · split at built
            · cases built
            · rename_i rest' lighter₃ closed
              obtain rfl := cons_of_expect closed
              cases built
              exact .last named (reads_of_expression value)
termination_by (weight ts, 11)
decreasing_by all_goals (subst_vars; simp only [Prod.lex_def]; omega)

end

/-- **What is read is what is built.** -/
theorem reads_iff {ts : List Token} {e : Expr} {rest : List Token} :
    ReadsExpression ts e rest ↔ ∃ h, expression ts = .ok ⟨e, rest, h⟩ :=
  ⟨ReadsExpression.built, fun ⟨_, built⟩ => reads_of_expression built⟩

/-- **A text parses when its tokens are read to their end.** -/
theorem parse_eq_ok_iff {s : List Char} {e : Expr} :
    parse s = .ok e ↔ ∃ ts, tokens? s = some ts ∧ ReadsExpression ts e [] := by
  constructor
  · intro parsed
    rw [parse] at parsed
    split at parsed
    · cases parsed
    · cases parsed
    · rename_i t ts light tokens
      split at parsed
      · cases parsed
      · rename_i e' rest lighter built
        split at parsed
        · cases parsed
          have tokens := tokens?_eq_some_iff.2 ⟨light, tokenize_eq_ok_iff.1 tokens⟩
          exact ⟨t :: ts, tokens, reads_iff.2 ⟨_, built⟩⟩
        · cases parsed
  · rintro ⟨ts, tokens, reads⟩
    obtain ⟨light, tokens⟩ := tokens?_eq_some_iff.1 tokens
    obtain ⟨lighter, built⟩ := reads_iff.1 reads
    cases ts with
    | nil => exact absurd rfl reads.ne_nil
    | cons t ts =>
      rw [parse, tokenize_eq_ok_iff.2 tokens]
      dsimp only
      rw [built]

end Formulary.Script
