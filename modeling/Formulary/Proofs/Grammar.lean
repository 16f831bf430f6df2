import Formulary.Proofs.Reading

/-!
# The grammar of expressions

The productions of the language as relations between a list of tokens and the tree that it derives.
They speak of whole lists, so nothing in them says which production is tried first or how far it
reaches.

* `expression_iff_derives`: the parser reads a list of tokens to its end exactly when the list
  derives a tree, and builds this tree; no list derives two.

Every reading is a derivation of the tokens that it takes (`ReadsExpression.derives`). A derivation
is read in front of any token that cannot go on with it (`Grammar.Expression.reads`); for operators,
accesses and calls, which lean to the left, this is said of what is read after them.
-/

namespace Formulary.Script

namespace Grammar

/-! ## Words -/

/-- The operators between operands, by levels; those of level 0 bind loosest. -/
inductive Joins : Nat → Token → Operator → Prop
  | nullish : Joins 0 .nullish (.lazy .nullish)
  | or : Joins 1 .or (.lazy .or)
  | and : Joins 2 .and (.lazy .and)
  | equal : Joins 3 .equal (.strict .eq)
  | notEqual : Joins 3 .notEqual (.strict .ne)
  | less : Joins 4 .less (.strict .lt)
  | lessEqual : Joins 4 .lessEqual (.strict .le)
  | greater : Joins 4 .greater (.strict .gt)
  | greaterEqual : Joins 4 .greaterEqual (.strict .ge)
  | plus : Joins 5 .plus (.strict .add)
  | minus : Joins 5 .minus (.strict .sub)
  | star : Joins 6 .star (.strict .mul)
  | slash : Joins 6 .slash (.strict .div)
  | percent : Joins 6 .percent (.strict .rem)

/-- The operators in front of an operand. -/
inductive Signs : Token → UnaryOp → Prop
  | bang : Signs .bang .not
  | minus : Signs .minus .negate
  | plus : Signs .plus .plus

/-- The keys of objects. -/
inductive Names : Token → String → Prop
  | ident {name : String} : Names (.ident name) name
  | string {s : List Char} : Names (.string s) (String.ofList s)
  | number {n : Binary64} : Names (.number n) (numberText n)

/-- The names that stand for literals. -/
def literalNames : List String := ["true", "false", "null", "undefined"]

/-! ## Productions -/

mutual

inductive Expression : List Token → Expr → Prop
  | arrow {name : String} {ts : List Token} {e : Expr} (body : Expression ts e) :
    Expression (.ident name :: .arrow :: ts) (.arrow (some name) e)
  | arrowInParens {name : String} {ts : List Token} {e : Expr} (body : Expression ts e) :
    Expression (.openParen :: .ident name :: .closeParen :: .arrow :: ts) (.arrow (some name) e)
  | arrowOfNothing {ts : List Token} {e : Expr} (body : Expression ts e) :
    Expression (.openParen :: .closeParen :: .arrow :: ts) (.arrow none e)
  | ternary {ts : List Token} {e : Expr} (inner : Ternary ts e) : Expression ts e

inductive Ternary : List Token → Expr → Prop
  | plain {ts : List Token} {e : Expr} (inner : Binary 0 ts e) : Ternary ts e
  | conditional {ts us vs : List Token} {test consequent alternate : Expr}
    (first : Binary 0 ts test) (second : Expression us consequent)
    (third : Expression vs alternate) :
    Ternary (ts ++ .question :: (us ++ .colon :: vs)) (.conditional test consequent alternate)

/-- Operands joined by the operators of a level, from the left, each operand of a tighter level. -/
inductive Binary : Nat → List Token → Expr → Prop
  | unary {ts : List Token} {e : Expr} (inner : Unary ts e) : Binary operandLevel ts e
  | tighter {level : Nat} {ts : List Token} {e : Expr} (inside : level < operandLevel)
    (inner : Binary (level + 1) ts e) : Binary level ts e
  | join {level : Nat} {ts us : List Token} {left right : Expr} {t : Token} {op : Operator}
    (first : Binary level ts left) (joins : Joins level t op)
    (second : Binary (level + 1) us right) : Binary level (ts ++ t :: us) (op.apply left right)

inductive Unary : List Token → Expr → Prop
  | sign {t : Token} {op : UnaryOp} {ts : List Token} {e : Expr} (signs : Signs t op)
    (inner : Unary ts e) : Unary (t :: ts) (.unary op e)
  | access {ts : List Token} {e : Expr} (inner : Access ts e) : Unary ts e

/-- A primary expression with the accesses and calls after it. -/
inductive Access : List Token → Expr → Prop
  | primary {ts : List Token} {e : Expr} (inner : Primary ts e) : Access ts e
  | member {ts : List Token} {e : Expr} {name : String} (object : Access ts e) :
    Access (ts ++ [.dot, .ident name]) (.member e name false)
  | optionalMember {ts : List Token} {e : Expr} {name : String} (object : Access ts e) :
    Access (ts ++ [.questionDot, .ident name]) (.member e name true)
  | index {ts us : List Token} {e key : Expr} (object : Access ts e)
    (inner : Expression us key) :
    Access (ts ++ .openBracket :: (us ++ [.closeBracket])) (.index e key false)
  | optionalIndex {ts us : List Token} {e key : Expr} (object : Access ts e)
    (inner : Expression us key) :
    Access (ts ++ .questionDot :: .openBracket :: (us ++ [.closeBracket])) (.index e key true)
  | call {ts us : List Token} {e : Expr} {args : List Expr} (callee : Access ts e)
    (inner : Items us args) : Access (ts ++ .openParen :: (us ++ [.closeParen])) (.call e args)

inductive Primary : List Token → Expr → Prop
  | number {n : Binary64} : Primary [.number n] (.literal (.ofNumber n))
  | string {s : List Char} : Primary [.string s] (.literal (.string (String.ofList s)))
  | template {chunks : List Chunk} {pieces : List Piece} (inner : Pieces chunks pieces) :
    Primary [.template chunks] (.template pieces)
  | true : Primary [.ident "true"] (.literal (.bool true))
  | false : Primary [.ident "false"] (.literal (.bool false))
  | null : Primary [.ident "null"] (.literal .null)
  | undefined : Primary [.ident "undefined"] (.literal .null)
  | ident {name : String} (other : name ∉ literalNames) : Primary [.ident name] (.ident name)
  | parens {ts : List Token} {e : Expr} (inner : Expression ts e) :
    Primary (.openParen :: (ts ++ [.closeParen])) e
  | array {ts : List Token} {items : List Expr} (inner : Items ts items) :
    Primary (.openBracket :: (ts ++ [.closeBracket])) (.array items)
  | object {ts : List Token} {members : List (String × Expr)} (inner : Entries ts members) :
    Primary (.openBrace :: (ts ++ [.closeBrace])) (.object members)

/-- Expressions with commas between them; after the last one a comma may stand, too. -/
inductive Items : List Token → List Expr → Prop
  | nil : Items [] []
  | last {ts : List Token} {e : Expr} (item : Expression ts e) : Items ts [e]
  | cons {ts us : List Token} {e : Expr} {items : List Expr} (item : Expression ts e)
    (others : Items us items) : Items (ts ++ .comma :: us) (e :: items)

/-- Entries with commas between them; after the last one a comma may stand, too. -/
inductive Entries : List Token → List (String × Expr) → Prop
  | nil : Entries [] []
  | last {t : Token} {key : String} {ts : List Token} {e : Expr} (names : Names t key)
    (value : Expression ts e) : Entries (t :: .colon :: ts) [(key, e)]
  | cons {t : Token} {key : String} {ts us : List Token} {e : Expr}
    {members : List (String × Expr)} (names : Names t key) (value : Expression ts e)
    (others : Entries us members) :
    Entries (t :: .colon :: (ts ++ .comma :: us)) ((key, e) :: members)

/-- The pieces of a template. A substitution is a text of its own. -/
inductive Pieces : List Chunk → List Piece → Prop
  | nil : Pieces [] []
  | text {s : List Char} {chunks : List Chunk} {pieces : List Piece}
    (others : Pieces chunks pieces) : Pieces (.text s :: chunks) (.text s :: pieces)
  | source {s : List Char} {ts : List Token} {e : Expr} {chunks : List Chunk}
    {pieces : List Piece} (tokens : tokens? s = some ts) (inner : Expression ts e)
    (others : Pieces chunks pieces) : Pieces (.source s :: chunks) (.expr e :: pieces)

end

/-! ## The parser's words are those of the grammar -/

theorem joins_iff {level : Nat} {t : Token} {op : Operator} :
    Joins level t op ↔ operator? level t = some op := by
  constructor
  · intro joins
    cases joins <;> rfl
  · intro found
    unfold operator? at found
    split at found
    all_goals
      cases found
      try constructor

theorem signs_iff {t : Token} {op : UnaryOp} : Signs t op ↔ unaryOp? t = some op := by
  constructor
  · intro signs
    cases signs <;> rfl
  · intro found
    cases t <;> cases found <;> constructor

theorem names_iff {t : Token} {key : String} : Names t key ↔ entryKey? t = some key := by
  constructor
  · intro names
    cases names <;> rfl
  · intro found
    cases t <;> cases found <;> constructor

theorem primary_ofName (name : String) : Primary [.ident name] (ofName name) := by
  unfold ofName
  split
  · rename_i same
    exact same ▸ .true
  · split
    · rename_i same
      exact same ▸ .false
    · split
      · rename_i same
        rcases same with same | same
        · exact same ▸ .null
        · exact same ▸ .undefined
      · refine .ident ?_
        simp only [literalNames, List.mem_cons, List.not_mem_nil, or_false]
        simp_all

theorem ofName_of_other {name : String} (other : name ∉ literalNames) :
    ofName name = .ident name := by
  simp only [literalNames, List.mem_cons, List.not_mem_nil, or_false, not_or] at other
  simp [ofName, other]

/-- An operator ends the operands of the tighter levels. -/
theorem Joins.stops {level : Nat} {t : Token} {op : Operator} (joins : Joins level t op)
    (rest : List Token) : Stops (level + 1) (t :: rest) := by
  intro t' first
  cases first
  refine ⟨by cases joins <;> rfl, fun l above => ?_⟩
  cases found : operator? l t with
  | none => rfl
  | some op' =>
    have joins' := joins_iff.2 found
    cases joins <;> cases joins' <;> omega

theorem Joins.inside {level : Nat} {t : Token} {op : Operator} (joins : Joins level t op) :
    level < operandLevel := by
  cases joins <;> decide

/-! ## Arrow functions -/

/-- Tokens with which nothing goes on after an expression. -/
def Ends (rest : List Token) : Prop :=
  ∀ t ∈ rest.head?, t = .closeParen ∨ t = .closeBracket ∨ t = .closeBrace ∨ t = .comma ∨ t = .colon

theorem ends_nil : Ends [] := fun _ first => by cases first

theorem ends_cons {t : Token} (rest : List Token) (closes : t = .closeParen ∨ t = .closeBracket ∨
    t = .closeBrace ∨ t = .comma ∨ t = .colon) : Ends (t :: rest) := by
  intro t' first
  cases first
  exact closes

theorem stops_cons {t : Token} (access : startsAccess t = false)
    (alone : ∀ level op, ¬ Joins level t op) (rest : List Token) : Stops 0 (t :: rest) := by
  intro t' first
  cases first
  refine ⟨access, fun level _ => ?_⟩
  cases found : operator? level t with
  | none => rfl
  | some op => exact absurd (joins_iff.2 found) (alone level op)

theorem stops_question (rest : List Token) : Stops 0 (.question :: rest) :=
  stops_cons rfl (fun _ _ joins => by cases joins) rest

theorem stops_arrow (rest : List Token) : Stops 0 (.arrow :: rest) :=
  stops_cons rfl (fun _ _ joins => by cases joins) rest

theorem Ends.stops {rest : List Token} (ends : Ends rest) : Stops 0 rest := by
  cases rest with
  | nil => exact fun t first => by cases first
  | cons t rest =>
    rcases ends t rfl with rfl | rfl | rfl | rfl | rfl
    all_goals exact stops_cons rfl (fun _ _ joins => by cases joins) rest

theorem Ends.head_ne {rest : List Token} (ends : Ends rest) {t : Token}
    (other : t = .arrow ∨ t = .question) : rest.head? ≠ some t := by
  intro same
  rcases ends t same with rfl | rfl | rfl | rfl | rfl <;> rcases other with other | other <;>
    cases other

/-- The parser reads operands in one way only. -/
theorem rest_unique {level : Nat} {ts : List Token} {e e' : Expr} {rest rest' : List Token}
    (reads : ReadsBinary level ts e rest) (reads' : ReadsBinary level ts e' rest') :
    rest = rest' := by
  obtain ⟨_, built⟩ := reads.built
  obtain ⟨_, built'⟩ := reads'.built
  rw [built] at built'
  cases built'
  rfl

/-- What operands are read from does not start like an arrow function, unless they end right in
front of the arrow. -/
theorem arrowHead?_of_reads {ts : List Token} {e : Expr} {rest : List Token}
    (reads : ReadsBinary 0 ts e rest) (other : rest.head? ≠ some .arrow) :
    arrowHead? ts = none := by
  unfold arrowHead?
  split
  · rename_i name r
    have operand : ReadsUnary (.ident name :: .arrow :: r) (ofName name) (.arrow :: r) :=
      .operand rfl .ident ((stops_arrow r).accesses _)
    rw [rest_unique reads (operand.binary (stops_arrow r))] at other
    exact absurd rfl other
  · -- nothing stands between the parentheses
    obtain ⟨e', rest', first⟩ := reads.first
    cases first with
    | operator operator read => cases operator
    | operand operator first more =>
      cases first with
      | parens inner =>
        obtain ⟨t, r, starts, -, notParen⟩ := inner.starts
        cases starts
        exact absurd rfl notParen
  · rename_i name r
    have closing := (ends_cons (t := .closeParen) (.arrow :: r) (by simp)).stops
    have inner : ReadsExpression (.ident name :: .closeParen :: .arrow :: r) (ofName name)
        (.closeParen :: .arrow :: r) :=
      .plain rfl ((ReadsUnary.operand rfl .ident (closing.accesses _)).binary closing) (by simp)
    have operand : ReadsUnary (.openParen :: .ident name :: .closeParen :: .arrow :: r)
        (ofName name) (.arrow :: r) :=
      .operand rfl (.parens inner) ((stops_arrow r).accesses _)
    rw [rest_unique reads (operand.binary (stops_arrow r))] at other
    exact absurd rfl other
  · rfl

/-! ## Every derivation is read -/

/-- What a list in brackets starts with does not close it. -/
theorem opens_of_reads {close : Token} {ts : List Token} {e : Expr} {rest : List Token}
    (reads : ReadsExpression ts e rest) (closes : close = .closeParen ∨ close = .closeBracket) :
    ts.head? ≠ some close := by
  obtain ⟨t, r, rfl, notBracket, notParen⟩ := reads.starts
  intro same
  cases same
  rcases closes with rfl | rfl
  · exact notParen rfl
  · exact notBracket rfl

mutual

/-- **What derives an expression is read as it**, in front of anything that ends one. -/
theorem Expression.reads : ∀ {ts : List Token} {e : Expr}, Expression ts e →
    ∀ {rest : List Token}, Ends rest → ReadsExpression (ts ++ rest) e rest
  | _, _, .arrow body, _, ends => .arrow rfl (body.reads ends)
  | _, _, .arrowInParens body, _, ends => .arrow rfl (body.reads ends)
  | _, _, .arrowOfNothing body, _, ends => .arrow rfl (body.reads ends)
  | _, _, .ternary inner, _, ends => inner.reads ends

theorem Ternary.reads : ∀ {ts : List Token} {e : Expr}, Ternary ts e →
    ∀ {rest : List Token}, Ends rest → ReadsExpression (ts ++ rest) e rest
  | _, e, .plain inner, rest, ends => by
    have reads := inner.reads (ends.stops.mono (Nat.zero_le 1)) (ends.stops.operands e)
    exact .plain (arrowHead?_of_reads reads (ends.head_ne (Or.inl rfl))) reads
      (ends.head_ne (Or.inr rfl))
  | _, _, @Ternary.conditional _ us vs _ _ _ first second third, rest, ends => by
    have question := stops_question (us ++ .colon :: (vs ++ rest))
    have test := first.reads (question.mono (Nat.zero_le 1)) (question.operands _)
    have consequent := second.reads (ends_cons (t := .colon) (vs ++ rest) (by simp))
    have alternate := third.reads ends
    have reads := ReadsExpression.conditional (arrowHead?_of_reads test (by simp)) test consequent
      alternate
    simpa using reads

/-- Operands are read together with the operators of their level that come after them. -/
theorem Binary.reads : ∀ {level : Nat} {ts : List Token} {e : Expr}, Binary level ts e →
    ∀ {rest rest' : List Token} {e' : Expr}, Stops (level + 1) rest →
      ReadsOperands level e rest e' rest' → ReadsBinary level (ts ++ rest) e' rest'
  | _, _, _, .unary inner, _, _, _, stops, more => by
    cases more with
    | done ends =>
      exact .operand (Nat.lt_irrefl _) (inner.reads fun t first => (stops t first).1)
    | more operator next others => exact absurd (joins_iff.2 operator).inside (by decide)
  | _, _, e, .tighter inside inner, _, _, _, stops, more =>
    .chain inside
      (inner.reads (stops.mono (Nat.le_succ _)) (stops.operands e)) more
  | level, _, _, @Binary.join _ _ us _ right t _ first joins second, rest, _, _,
      stops, more => by
    have operand : ReadsBinary (level + 1) (us ++ rest) right rest :=
      second.reads (stops.mono (Nat.le_succ _)) (stops.operands right)
    have reads := first.reads (joins.stops (us ++ rest)) (.more (joins_iff.1 joins) operand more)
    simpa using reads

theorem Unary.reads : ∀ {ts : List Token} {e : Expr}, Unary ts e → ∀ {rest : List Token},
    (∀ t ∈ rest.head?, startsAccess t = false) → ReadsUnary (ts ++ rest) e rest
  | _, _, .sign signs inner, _, ends => .operator (signs_iff.1 signs) (inner.reads ends)
  | _, _, .access inner, _, ends => inner.reads (.done ends)

/-- An operand is read together with the accesses and calls that come after it. -/
theorem Access.reads : ∀ {ts : List Token} {e : Expr}, Access ts e →
    ∀ {rest rest' : List Token} {e' : Expr}, ReadsAccesses e rest e' rest' →
      ReadsUnary (ts ++ rest) e' rest'
  | _, _, .primary inner, rest, _, _, more => by
    obtain ⟨t, r, rfl, reads⟩ := inner.reads
    exact .operand (reads rest).unaryOp?_eq_none (reads rest) more
  | _, _, .member object, _, _, _, more => by
    simpa using object.reads (.member more)
  | _, _, .optionalMember object, _, _, _, more => by
    simpa using object.reads (.optionalMember more)
  | _, _, .index object inner, rest, _, _, more => by
    have key := inner.reads (ends_cons (t := .closeBracket) rest (by simp))
    simpa using object.reads (.index key more)
  | _, _, .optionalIndex object inner, rest, _, _, more => by
    have key := inner.reads (ends_cons (t := .closeBracket) rest (by simp))
    simpa using object.reads (.optionalIndex key more)
  | _, _, .call callee inner, rest, _, _, more => by
    simpa using callee.reads (.call (inner.reads (Or.inl rfl) rest) more)

theorem Primary.reads : ∀ {ts : List Token} {e : Expr}, Primary ts e →
    ∃ t r, ts = t :: r ∧ ∀ rest, ReadsPrimary t (r ++ rest) e rest
  | _, _, .number => ⟨_, _, rfl, fun _ => .number⟩
  | _, _, .string => ⟨_, _, rfl, fun _ => .string⟩
  | _, _, .template inner => ⟨_, _, rfl, fun _ => .template inner.reads⟩
  | _, _, .true => ⟨_, _, rfl, fun _ => .ident⟩
  | _, _, .false => ⟨_, _, rfl, fun _ => .ident⟩
  | _, _, .null => ⟨_, _, rfl, fun _ => .ident⟩
  | _, _, .undefined => ⟨_, _, rfl, fun _ => .ident⟩
  | _, _, .ident other => ⟨_, _, rfl, fun _ => ofName_of_other other ▸ .ident⟩
  | _, _, .parens inner => ⟨_, _, rfl, fun rest => by
      have reads := inner.reads (ends_cons (t := .closeParen) rest (by simp))
      simpa using ReadsPrimary.parens reads⟩
  | _, _, .array inner => ⟨_, _, rfl, fun rest => by
      simpa using ReadsPrimary.array (inner.reads (Or.inr rfl) rest)⟩
  | _, _, .object inner => ⟨_, _, rfl, fun rest => by
      simpa using ReadsPrimary.object (inner.reads rest)⟩

theorem Items.reads : ∀ {ts : List Token} {items : List Expr}, Items ts items →
    ∀ {close : Token}, close = .closeParen ∨ close = .closeBracket → ∀ rest,
      ReadsList close (ts ++ close :: rest) items rest
  | _, _, .nil, _, _, _ => .done
  | _, _, .last item, close, closes, rest => by
    have ends : Ends (close :: rest) := by
      rcases closes with rfl | rfl <;> exact ends_cons rest (by simp)
    have read := item.reads ends
    refine .last (opens_of_reads read closes) ?_ read
    rintro rfl
    rcases closes with closes | closes <;> cases closes
  | _, _, @Items.cons _ us _ _ item others, close, closes, rest => by
    have read := item.reads (ends_cons (t := .comma) (us ++ close :: rest) (by simp))
    simpa using ReadsList.more (opens_of_reads read closes) read (others.reads closes rest)

theorem Entries.reads : ∀ {ts : List Token} {members : List (String × Expr)}, Entries ts members →
    ∀ rest, ReadsEntries (ts ++ .closeBrace :: rest) members rest
  | _, _, .nil, _ => .done
  | _, _, .last names value, rest =>
    .last (names_iff.1 names) (value.reads (ends_cons (t := .closeBrace) rest (by simp)))
  | _, _, @Entries.cons _ _ _ us _ _ names value others, rest => by
    have read := value.reads (ends_cons (t := .comma) (us ++ .closeBrace :: rest) (by simp))
    simpa using ReadsEntries.more (names_iff.1 names) read (others.reads rest)

theorem Pieces.reads : ∀ {chunks : List Chunk} {pieces : List Piece}, Pieces chunks pieces →
    templatePieces chunks = .ok pieces
  | _, _, .nil => by rw [templatePieces]
  | _, _, .text others => by rw [templatePieces, others.reads]
  | _, _, @Pieces.source _ ts _ _ _ tokens inner others => by
    have read := inner.reads ends_nil
    rw [List.append_nil] at read
    rw [templatePieces, parse_eq_ok_iff.2 ⟨ts, tokens, read⟩]
    dsimp only
    rw [others.reads]

end

end Grammar

open Grammar

/-! ## Every reading is a derivation -/

/-- The templates among the tokens derive what the parser builds of them. -/
def TemplatesDerive (ts : List Token) : Prop :=
  ∀ chunks pieces, .template chunks ∈ ts → templatePieces chunks = .ok pieces →
    Pieces chunks pieces

theorem TemplatesDerive.of_append {ts us : List Token} (known : TemplatesDerive (ts ++ us)) :
    TemplatesDerive us :=
  fun chunks pieces member => known chunks pieces (List.mem_append_right ts member)

theorem TemplatesDerive.of_cons {t : Token} {ts : List Token} (known : TemplatesDerive (t :: ts)) :
    TemplatesDerive ts :=
  fun chunks pieces member => known chunks pieces (List.mem_cons_of_mem t member)

/-- The front of an arrow function makes one of any expression. -/
theorem arrow_of_arrowHead? {ts : List Token} {param : Option String} {body}
    (head : arrowHead? ts = some (param, body)) :
    ∃ us, ts = us ++ body.1 ∧
      ∀ {vs : List Token} {e : Expr}, Expression vs e → Expression (us ++ vs) (.arrow param e) := by
  unfold arrowHead? at head
  split at head
  · rename_i name r
    cases head
    exact ⟨[.ident name, .arrow], rfl, fun derives => .arrow derives⟩
  · cases head
    exact ⟨[.openParen, .closeParen, .arrow], rfl, fun derives => .arrowOfNothing derives⟩
  · rename_i name r
    cases head
    exact ⟨[.openParen, .ident name, .closeParen, .arrow], rfl,
      fun derives => .arrowInParens derives⟩
  · cases head

mutual

/-- **What is read is derived from the tokens that it takes.** -/
theorem ReadsExpression.derives : ∀ {ts : List Token} {e : Expr} {rest : List Token},
    ReadsExpression ts e rest → TemplatesDerive ts → ∃ us, ts = us ++ rest ∧ Expression us e
  | _, _, _, .arrow head read, known => by
    obtain ⟨us, same, arrow⟩ := arrow_of_arrowHead? head
    rw [same] at known ⊢
    obtain ⟨vs, same', body⟩ := read.derives known.of_append
    exact ⟨us ++ vs, by rw [same', List.append_assoc], arrow body⟩
  | _, _, _, .plain _ read _, known => by
    obtain ⟨us, same, inner⟩ := read.derives (Nat.zero_le _) known
    exact ⟨us, same, .ternary (.plain inner)⟩
  | _, _, _, .conditional _ first second third, known => by
    obtain ⟨us, rfl, test⟩ := first.derives (Nat.zero_le _) known
    obtain ⟨vs, rfl, consequent⟩ := second.derives known.of_append.of_cons
    obtain ⟨ws, rfl, alternate⟩ := third.derives known.of_append.of_cons.of_append.of_cons
    exact ⟨_, by simp, .ternary (.conditional test consequent alternate)⟩

theorem ReadsBinary.derives : ∀ {level : Nat} {ts : List Token} {e : Expr} {rest : List Token},
    ReadsBinary level ts e rest → level ≤ operandLevel → TemplatesDerive ts →
      ∃ us, ts = us ++ rest ∧ Binary level us e
  | level, _, _, _, .operand top read, inside, known => by
    obtain ⟨us, same, inner⟩ := read.derives known
    obtain rfl : level = operandLevel := Nat.le_antisymm inside (Nat.le_of_not_lt top)
    exact ⟨us, same, .unary inner⟩
  | _, _, _, _, .chain inner first more, _, known => by
    obtain ⟨us, rfl, left⟩ := first.derives inner known
    obtain ⟨vs, rfl, derives⟩ := more.derives inner known.of_append (.tighter inner left)
    exact ⟨us ++ vs, by rw [List.append_assoc], derives⟩

/-- The operators after a left operand take it in. -/
theorem ReadsOperands.derives : ∀ {level : Nat} {left : Expr} {ts : List Token} {e : Expr}
    {rest : List Token}, ReadsOperands level left ts e rest → level < operandLevel →
      TemplatesDerive ts → ∀ {us : List Token}, Binary level us left →
        ∃ vs, ts = vs ++ rest ∧ Binary level (us ++ vs) e
  | _, _, _, _, _, .done _, _, _, us, left => ⟨[], rfl, by rwa [List.append_nil]⟩
  | _, _, _, _, _, .more (t := t) operator next others, inside, known, us, left => by
    obtain ⟨vs, rfl, right⟩ := next.derives inside known.of_cons
    have joined := Binary.join left (joins_iff.2 operator) right
    obtain ⟨ws, rfl, derives⟩ := others.derives inside known.of_cons.of_append joined
    exact ⟨t :: vs ++ ws, by simp, by simpa using derives⟩

theorem ReadsUnary.derives : ∀ {ts : List Token} {e : Expr} {rest : List Token},
    ReadsUnary ts e rest → TemplatesDerive ts → ∃ us, ts = us ++ rest ∧ Unary us e
  | _, _, _, .operator (t := t) operator read, known => by
    obtain ⟨us, rfl, inner⟩ := read.derives known.of_cons
    exact ⟨t :: us, rfl, .sign (signs_iff.2 operator) inner⟩
  | _, _, _, .operand (t := t) _ first more, known => by
    obtain ⟨us, rfl, inner⟩ := first.derives known
    obtain ⟨vs, rfl, derives⟩ := more.derives known.of_cons.of_append (.primary inner)
    exact ⟨t :: us ++ vs, by simp, .access derives⟩

/-- The accesses and calls after an expression take it in. -/
theorem ReadsAccesses.derives : ∀ {e : Expr} {ts : List Token} {e' : Expr} {rest : List Token},
    ReadsAccesses e ts e' rest → TemplatesDerive ts → ∀ {us : List Token}, Access us e →
      ∃ vs, ts = vs ++ rest ∧ Access (us ++ vs) e'
  | _, _, _, _, .done _, _, us, object => ⟨[], rfl, by rwa [List.append_nil]⟩
  | _, _, _, _, @ReadsAccesses.member _ _ name _ _ others, known, us, object => by
    obtain ⟨vs, rfl, derives⟩ := others.derives known.of_cons.of_cons (.member object)
    exact ⟨.dot :: .ident name :: vs, rfl, by simpa using derives⟩
  | _, _, _, _, @ReadsAccesses.optionalMember _ _ name _ _ others, known, us, object => by
    obtain ⟨vs, rfl, derives⟩ := others.derives known.of_cons.of_cons (.optionalMember object)
    exact ⟨.questionDot :: .ident name :: vs, rfl, by simpa using derives⟩
  | _, _, _, _, .index inner others, known, us, object => by
    obtain ⟨vs, rfl, key⟩ := inner.derives known.of_cons
    obtain ⟨ws, rfl, derives⟩ :=
      others.derives known.of_cons.of_append.of_cons (.index object key)
    exact ⟨.openBracket :: (vs ++ .closeBracket :: ws), by simp, by simpa using derives⟩
  | _, _, _, _, .optionalIndex inner others, known, us, object => by
    obtain ⟨vs, rfl, key⟩ := inner.derives known.of_cons.of_cons
    obtain ⟨ws, rfl, derives⟩ :=
      others.derives known.of_cons.of_cons.of_append.of_cons (.optionalIndex object key)
    exact ⟨.questionDot :: .openBracket :: (vs ++ .closeBracket :: ws), by simp,
      by simpa using derives⟩
  | _, _, _, _, .call inner others, known, us, callee => by
    obtain ⟨vs, rfl, args⟩ := inner.derives known.of_cons
    obtain ⟨ws, rfl, derives⟩ :=
      others.derives known.of_cons.of_append.of_cons (.call callee args)
    exact ⟨.openParen :: (vs ++ .closeParen :: ws), by simp, by simpa using derives⟩

theorem ReadsPrimary.derives : ∀ {t : Token} {ts : List Token} {e : Expr} {rest : List Token},
    ReadsPrimary t ts e rest → TemplatesDerive (t :: ts) →
      ∃ us, ts = us ++ rest ∧ Primary (t :: us) e
  | _, _, _, _, .number, _ => ⟨[], rfl, .number⟩
  | _, _, _, _, .string, _ => ⟨[], rfl, .string⟩
  | _, _, _, _, .template parts, known =>
    ⟨[], rfl, .template (known _ _ List.mem_cons_self parts)⟩
  | _, _, _, _, .ident, _ => ⟨[], rfl, primary_ofName _⟩
  | _, _, _, _, .parens inner, known => by
    obtain ⟨us, rfl, derives⟩ := inner.derives known.of_cons
    exact ⟨us ++ [.closeParen], by simp, .parens derives⟩
  | _, _, _, _, .array inner, known => by
    obtain ⟨us, rfl, derives⟩ := inner.derives known.of_cons
    exact ⟨us ++ [.closeBracket], by simp, .array derives⟩
  | _, _, _, _, .object inner, known => by
    obtain ⟨us, rfl, derives⟩ := inner.derives known.of_cons
    exact ⟨us ++ [.closeBrace], by simp, .object derives⟩

theorem ReadsList.derives : ∀ {close : Token} {ts : List Token} {items : List Expr}
    {rest : List Token}, ReadsList close ts items rest → TemplatesDerive ts →
      ∃ us, ts = us ++ close :: rest ∧ Items us items
  | _, _, _, _, .done, _ => ⟨[], rfl, .nil⟩
  | _, _, _, _, .last _ _ item, known => by
    obtain ⟨us, same, derives⟩ := item.derives known
    exact ⟨us, same, .last derives⟩
  | _, _, _, _, .more _ item others, known => by
    obtain ⟨us, rfl, first⟩ := item.derives known
    obtain ⟨vs, rfl, derives⟩ := others.derives known.of_append.of_cons
    exact ⟨us ++ .comma :: vs, by simp, .cons first derives⟩

theorem ReadsEntries.derives : ∀ {ts : List Token} {members : List (String × Expr)}
    {rest : List Token}, ReadsEntries ts members rest → TemplatesDerive ts →
      ∃ us, ts = us ++ .closeBrace :: rest ∧ Entries us members
  | _, _, _, .done, _ => ⟨[], rfl, .nil⟩
  | _, _, _, .last (t := t) named value, known => by
    obtain ⟨us, rfl, derives⟩ := value.derives known.of_cons.of_cons
    exact ⟨t :: .colon :: us, rfl, .last (names_iff.2 named) derives⟩
  | _, _, _, .more (t := t) named value others, known => by
    obtain ⟨us, rfl, first⟩ := value.derives known.of_cons.of_cons
    obtain ⟨vs, rfl, derives⟩ := others.derives known.of_cons.of_cons.of_append.of_cons
    exact ⟨t :: .colon :: (us ++ .comma :: vs), by simp, .cons (names_iff.2 named) first derives⟩

end

/-! ## Templates -/

theorem length_of_source {s : List Char} {chunks : List Chunk} (member : .source s ∈ chunks) :
    s.length < chunksWeight chunks := by
  induction chunks with
  | nil => cases member
  | cons chunk chunks ih =>
    rw [chunksWeight]
    cases member with
    | head => exact Nat.lt_of_lt_of_le (Nat.lt_succ_self _) (Nat.le_add_right _ _)
    | tail _ member => exact Nat.lt_of_lt_of_le (ih member) (Nat.le_add_left _ _)

theorem weight_of_mem {t : Token} {ts : List Token} (member : t ∈ ts) : t.weight ≤ weight ts := by
  induction ts with
  | nil => cases member
  | cons t' ts ih =>
    rw [weight]
    cases member with
    | head => exact Nat.le_add_right _ _
    | tail _ member => exact Nat.le_trans (ih member) (Nat.le_add_left _ _)

/-- A text whose parsed tree its tokens derive. -/
def TextDerives (s : List Char) : Prop :=
  ∀ e, parse s = .ok e → ∃ ts, tokens? s = some ts ∧ Expression ts e

theorem pieces_of_sources {chunks : List Chunk} {pieces : List Piece}
    (sources : ∀ s, .source s ∈ chunks → TextDerives s)
    (parts : templatePieces chunks = .ok pieces) : Pieces chunks pieces := by
  induction chunks generalizing pieces with
  | nil =>
    rw [templatePieces] at parts
    cases parts
    exact .nil
  | cons chunk chunks ih =>
    have ih {pieces : List Piece} (parts : templatePieces chunks = .ok pieces) :
        Pieces chunks pieces :=
      ih (fun s member => sources s (List.mem_cons_of_mem chunk member)) parts
    cases chunk with
    | text s =>
      rw [templatePieces] at parts
      split at parts
      · cases parts
      · rename_i others
        cases parts
        exact .text (ih others)
    | source s =>
      rw [templatePieces] at parts
      split at parts
      · cases parts
      · rename_i e parsed
        split at parts
        · cases parts
        · rename_i others
          cases parts
          obtain ⟨ts, tokens, inner⟩ := sources s List.mem_cons_self e parsed
          exact .source tokens inner (ih others)

/-- The induction is on the length: a text is longer than the substitutions of its templates. -/
theorem textDerives (s : List Char) : TextDerives s := by
  induction s using WellFounded.induction (measure List.length).wf with
  | _ s ih =>
    intro e parsed
    obtain ⟨ts, tokens, reads⟩ := parse_eq_ok_iff.1 parsed
    obtain ⟨light, -⟩ := tokens?_eq_some_iff.1 tokens
    obtain ⟨us, rfl, derives⟩ := reads.derives fun chunks pieces member parts =>
      pieces_of_sources (fun source inside => ih source (by
        have shorter := length_of_source inside
        have heavier := weight_of_mem member
        rw [Token.weight] at heavier
        show source.length < s.length
        omega)) parts
    rw [List.append_nil] at tokens
    exact ⟨us, tokens, derives⟩

theorem templatesDerive (ts : List Token) : TemplatesDerive ts :=
  fun _ _ _ parts => pieces_of_sources (fun s _ => textDerives s) parts

/-! ## The parser and the grammar -/

/-- **The parser reads a list of tokens to its end exactly when the list derives a tree, and builds
this tree. No list derives two.** -/
theorem expression_iff_derives (ts : List Token) :
    (∀ e, (∃ h, expression ts = .ok ⟨e, [], h⟩) ↔ Expression ts e) ∧
      ∀ e e', Expression ts e → Expression ts e' → e = e' := by
  have built : ∀ e, (∃ h, expression ts = .ok ⟨e, [], h⟩) ↔ Expression ts e := by
    intro e
    rw [← reads_iff]
    constructor
    · intro reads
      obtain ⟨us, same, derives⟩ := reads.derives (templatesDerive ts)
      rw [List.append_nil] at same
      exact same ▸ derives
    · intro derives
      have reads := derives.reads ends_nil
      rwa [List.append_nil] at reads
  refine ⟨built, fun e e' derives derives' => ?_⟩
  obtain ⟨_, parsed⟩ := (built e).2 derives
  obtain ⟨_, parsed'⟩ := (built e').2 derives'
  rw [parsed] at parsed'
  cases parsed'
  rfl

end Formulary.Script
