import Formulary.Proofs.Reading

/-!
# Readings of like tokens

Two lists of tokens are alike when they differ in the texts of string literals and in what stands
where one of them has `[]`. Both stand where an operand stands, and no rule of the grammar looks
into an operand, so the parser accepts the second list if it accepts the first, and builds a tree
that differs in the same places (`ReadsExpression.alike`).
-/

namespace Formulary.Script

variable {texts : List Char → List Char → Prop} {documents : Expr → Prop}

/-! ## Like tokens and like trees -/

/-- Tokens that differ at most in the texts of strings, which are related by `texts`, and in what
stands in place of `[]`: something in brackets or braces that is read as one of `documents`. -/
inductive TokensAlike (texts : List Char → List Char → Prop) (documents : Expr → Prop) :
    List Token → List Token → Prop
  | nil : TokensAlike texts documents [] []
  | same (t : Token) {ts ts' : List Token} (others : TokensAlike texts documents ts ts') :
    TokensAlike texts documents (t :: ts) (t :: ts')
  | text {s s' : List Char} (related : texts s s') {ts ts' : List Token}
    (others : TokensAlike texts documents ts ts') :
    TokensAlike texts documents (.string s :: ts) (.string s' :: ts')
  | document {t : Token} {inside : List Token} {e : Expr}
    (opens : t = .openBracket ∨ t = .openBrace)
    (reads : ∀ rest, ReadsPrimary t (inside ++ rest) e rest) (allowed : documents e)
    {ts ts' : List Token} (others : TokensAlike texts documents ts ts') :
    TokensAlike texts documents (.openBracket :: .closeBracket :: ts) (t :: (inside ++ ts'))

theorem TokensAlike.append {ts ts' us us' : List Token} (front : TokensAlike texts documents ts ts')
    (back : TokensAlike texts documents us us') :
    TokensAlike texts documents (ts ++ us) (ts' ++ us') := by
  induction front with
  | nil => exact back
  | same t others ih => exact .same t ih
  | text related others ih => exact .text related ih
  | document opens reads allowed others ih =>
    simpa using TokensAlike.document opens reads allowed ih

theorem TokensAlike.refl (ts : List Token) : TokensAlike texts documents ts ts := by
  induction ts with
  | nil => exact .nil
  | cons t ts ih => exact .same t ih

/-- The keys of an object are the same, or are texts related by `texts`. -/
def KeysAlike (texts : List Char → List Char → Prop) (key key' : String) : Prop :=
  key = key' ∨ texts key.toList key'.toList

mutual

/-- Trees that differ at most in string literals and keys, which are related by `texts`, and in
what stands in place of the empty array, which is one of `documents`. -/
inductive Expr.Alike (texts : List Char → List Char → Prop) (documents : Expr → Prop) :
    Expr → Expr → Prop
  | same (e : Expr) : Expr.Alike texts documents e e
  | text {s s' : List Char} (related : texts s s') :
    Expr.Alike texts documents (.literal (.string (String.ofList s)))
      (.literal (.string (String.ofList s')))
  | document {e : Expr} (allowed : documents e) : Expr.Alike texts documents (.array []) e
  | array {items items' : List Expr} (inner : ItemsAlike texts documents items items') :
    Expr.Alike texts documents (.array items) (.array items')
  | object {members members' : List (String × Expr)}
    (inner : MembersAlike texts documents members members') :
    Expr.Alike texts documents (.object members) (.object members')
  | member {e e' : Expr} (name : String) (optional : Bool)
    (object : Expr.Alike texts documents e e') :
    Expr.Alike texts documents (.member e name optional) (.member e' name optional)
  | index {e e' f f' : Expr} (optional : Bool) (object : Expr.Alike texts documents e e')
    (key : Expr.Alike texts documents f f') :
    Expr.Alike texts documents (.index e f optional) (.index e' f' optional)
  | call {e e' : Expr} {args args' : List Expr} (callee : Expr.Alike texts documents e e')
    (inner : ItemsAlike texts documents args args') :
    Expr.Alike texts documents (.call e args) (.call e' args')
  | unary {e e' : Expr} (op : UnaryOp) (operand : Expr.Alike texts documents e e') :
    Expr.Alike texts documents (.unary op e) (.unary op e')
  | strict {e e' f f' : Expr} (op : StrictOp) (left : Expr.Alike texts documents e e')
    (right : Expr.Alike texts documents f f') :
    Expr.Alike texts documents (.strict op e f) (.strict op e' f')
  | lazy {e e' f f' : Expr} (op : LazyOp) (left : Expr.Alike texts documents e e')
    (right : Expr.Alike texts documents f f') :
    Expr.Alike texts documents (.lazy op e f) (.lazy op e' f')
  | conditional {e e' f f' g g' : Expr} (test : Expr.Alike texts documents e e')
    (consequent : Expr.Alike texts documents f f') (alternate : Expr.Alike texts documents g g') :
    Expr.Alike texts documents (.conditional e f g) (.conditional e' f' g')
  | arrow {e e' : Expr} (param : Option String) (body : Expr.Alike texts documents e e') :
    Expr.Alike texts documents (.arrow param e) (.arrow param e')

inductive ItemsAlike (texts : List Char → List Char → Prop) (documents : Expr → Prop) :
    List Expr → List Expr → Prop
  | nil : ItemsAlike texts documents [] []
  | cons {e e' : Expr} {items items' : List Expr} (first : Expr.Alike texts documents e e')
    (others : ItemsAlike texts documents items items') :
    ItemsAlike texts documents (e :: items) (e' :: items')

inductive MembersAlike (texts : List Char → List Char → Prop) (documents : Expr → Prop) :
    List (String × Expr) → List (String × Expr) → Prop
  | nil : MembersAlike texts documents [] []
  | cons {key key' : String} {e e' : Expr} {members members' : List (String × Expr)}
    (keys : KeysAlike texts key key') (first : Expr.Alike texts documents e e')
    (others : MembersAlike texts documents members members') :
    MembersAlike texts documents ((key, e) :: members) ((key', e') :: members')

end

theorem Expr.Alike.apply {e e' f f' : Expr} (op : Operator)
    (left : Expr.Alike texts documents e e') (right : Expr.Alike texts documents f f') :
    Expr.Alike texts documents (op.apply e f) (op.apply e' f') := by
  cases op with
  | strict op => exact .strict op left right
  | lazy op => exact .lazy op left right

/-! ## The first tokens -/

/-- Tokens that differ only from themselves in like lists. -/
def Fixed (t : Token) : Prop := t ≠ .openBracket ∧ t ≠ .openBrace ∧ ∀ s, t ≠ .string s

theorem TokensAlike.fixed {t : Token} (fixed : Fixed t) {r ts' : List Token}
    (alike : TokensAlike texts documents (t :: r) ts') :
    ∃ r', ts' = t :: r' ∧ TokensAlike texts documents r r' := by
  cases alike with
  | same t others => exact ⟨_, rfl, others⟩
  | text related others => exact absurd rfl (fixed.2.2 _)
  | document opens reads allowed others => exact absurd rfl fixed.1

theorem TokensAlike.fixed_right {t : Token} (fixed : Fixed t) {ts r' : List Token}
    (alike : TokensAlike texts documents ts (t :: r')) :
    ∃ r, ts = t :: r ∧ TokensAlike texts documents r r' := by
  cases alike with
  | same t others => exact ⟨_, rfl, others⟩
  | text related others => exact absurd rfl (fixed.2.2 _)
  | document opens reads allowed others =>
    rcases opens with rfl | rfl
    · exact absurd rfl fixed.1
    · exact absurd rfl fixed.2.1

theorem TokensAlike.fixed_all (us : List Token) (fixed : ∀ t ∈ us, Fixed t) {r ts' : List Token}
    (alike : TokensAlike texts documents (us ++ r) ts') :
    ∃ r', ts' = us ++ r' ∧ TokensAlike texts documents r r' := by
  induction us generalizing ts' with
  | nil => exact ⟨ts', rfl, alike⟩
  | cons t us ih =>
    obtain ⟨r', rfl, others⟩ := alike.fixed (fixed t List.mem_cons_self)
    obtain ⟨r'', rfl, rest⟩ := ih (fun u among => fixed u (List.mem_cons_of_mem t among)) others
    exact ⟨r'', rfl, rest⟩

theorem TokensAlike.fixed_all_right (us : List Token) (fixed : ∀ t ∈ us, Fixed t)
    {ts r' : List Token} (alike : TokensAlike texts documents ts (us ++ r')) :
    ∃ r, ts = us ++ r ∧ TokensAlike texts documents r r' := by
  induction us generalizing ts with
  | nil => exact ⟨ts, rfl, alike⟩
  | cons t us ih =>
    obtain ⟨r, rfl, others⟩ := alike.fixed_right (fixed t List.mem_cons_self)
    obtain ⟨r'', rfl, rest⟩ := ih (fun u among => fixed u (List.mem_cons_of_mem t among)) others
    exact ⟨r'', rfl, rest⟩

/-- What holds of the first token holds of that of a like list, if it holds of strings, and of
braces where it holds of brackets. -/
theorem TokensAlike.head {p : Token → Prop} (brace : p .openBracket → p .openBrace)
    (string : ∀ s, p (.string s)) {ts ts' : List Token}
    (alike : TokensAlike texts documents ts ts') (holds : ∀ t ∈ ts.head?, p t) :
    ∀ t ∈ ts'.head?, p t := by
  intro t' first
  cases alike with
  | nil => cases first
  | same _ others =>
    cases first
    exact holds _ rfl
  | text related others =>
    cases first
    exact string _
  | document opens reads allowed others =>
    cases first
    have bracket : p .openBracket := holds _ rfl
    rcases opens with rfl | rfl
    · exact bracket
    · exact brace bracket

theorem TokensAlike.head_ne {wanted : Token} (fixed : Fixed wanted) {ts ts' : List Token}
    (alike : TokensAlike texts documents ts ts') (other : ts.head? ≠ some wanted) :
    ts'.head? ≠ some wanted := by
  intro same
  obtain ⟨r', rfl⟩ := List.head?_eq_some_iff.1 same
  obtain ⟨r, rfl, -⟩ := alike.fixed_right fixed
  exact other rfl

/-- An arrow function in one list is an arrow function in the other. -/
theorem arrowHead?_alike_some {ts ts' : List Token} (alike : TokensAlike texts documents ts ts')
    {param : Option String} {body} (head : arrowHead? ts = some (param, body)) :
    ∃ body', arrowHead? ts' = some (param, body') ∧
      TokensAlike texts documents body.1 body'.1 := by
  unfold arrowHead? at head
  split at head
  · cases head
    obtain ⟨r, rfl, inner⟩ := alike.fixed_all [.ident _, .arrow] (by simp [Fixed])
    exact ⟨_, rfl, inner⟩
  · cases head
    obtain ⟨r, rfl, inner⟩ :=
      alike.fixed_all [.openParen, .closeParen, .arrow] (by simp [Fixed])
    exact ⟨_, rfl, inner⟩
  · cases head
    obtain ⟨r, rfl, inner⟩ :=
      alike.fixed_all [.openParen, .ident _, .closeParen, .arrow] (by simp [Fixed])
    exact ⟨_, rfl, inner⟩
  · cases head

theorem arrowHead?_alike_none {ts ts' : List Token} (alike : TokensAlike texts documents ts ts')
    (head : arrowHead? ts = none) : arrowHead? ts' = none := by
  cases head' : arrowHead? ts' with
  | none => rfl
  | some found =>
    unfold arrowHead? at head'
    split at head'
    · obtain ⟨r, rfl, -⟩ := alike.fixed_all_right [.ident _, .arrow] (by simp [Fixed])
      cases head
    · obtain ⟨r, rfl, -⟩ :=
        alike.fixed_all_right [.openParen, .closeParen, .arrow] (by simp [Fixed])
      cases head
    · obtain ⟨r, rfl, -⟩ :=
        alike.fixed_all_right [.openParen, .ident _, .closeParen, .arrow] (by simp [Fixed])
      cases head
    · cases head'

theorem operator?_string (level : Nat) (s : List Char) : operator? level (.string s) = none := by
  unfold operator?
  split <;> first | rfl | contradiction

theorem operator?_openBrace (level : Nat) : operator? level .openBrace = none := by
  unfold operator?
  split <;> first | rfl | contradiction

theorem operator?_fixed {level : Nat} {t : Token} {op : Operator}
    (operator : operator? level t = some op) : Fixed t := by
  refine ⟨?_, ?_, ?_⟩
  · rintro rfl
    unfold operator? at operator
    split at operator <;> contradiction
  · rintro rfl
    rw [operator?_openBrace] at operator
    cases operator
  · rintro s rfl
    rw [operator?_string] at operator
    cases operator

theorem unaryOp?_fixed {t : Token} {op : UnaryOp} (operator : unaryOp? t = some op) : Fixed t := by
  refine ⟨?_, ?_, ?_⟩
  · rintro rfl
    cases operator
  · rintro rfl
    cases operator
  · rintro s rfl
    cases operator

/-- The bracket of an index is not one of a document. -/
theorem TokensAlike.bracket {r ts' : List Token} (other : r.head? ≠ some .closeBracket)
    (alike : TokensAlike texts documents (.openBracket :: r) ts') :
    ∃ r', ts' = .openBracket :: r' ∧ TokensAlike texts documents r r' := by
  cases alike with
  | same t others => exact ⟨_, rfl, others⟩
  | document opens reads allowed others => exact absurd rfl other

theorem entryKey?_alike {t : Token} {key : String} (named : entryKey? t = some key)
    {r ts' : List Token} (alike : TokensAlike texts documents (t :: r) ts') :
    ∃ t' key' r', ts' = t' :: r' ∧ entryKey? t' = some key' ∧ KeysAlike texts key key' ∧
      TokensAlike texts documents r r' := by
  cases alike with
  | same t others => exact ⟨t, key, _, rfl, named, Or.inl rfl, others⟩
  | text related others =>
    cases named
    refine ⟨_, _, _, rfl, rfl, Or.inr ?_, others⟩
    rw [String.toList_ofList, String.toList_ofList]
    exact related
  | document opens reads allowed others => cases named

/-! ## Readings -/

mutual

theorem ReadsExpression.alike : ∀ {ts : List Token} {e : Expr} {rest : List Token},
    ReadsExpression ts e rest → ∀ {ts' : List Token}, TokensAlike texts documents ts ts' →
      ∃ e' rest', ReadsExpression ts' e' rest' ∧ Expr.Alike texts documents e e' ∧
        TokensAlike texts documents rest rest'
  | _, _, _, .arrow head read, _, alike => by
    obtain ⟨body', head', alike₁⟩ := arrowHead?_alike_some alike head
    obtain ⟨e', rest', read', trees, alike₂⟩ := read.alike alike₁
    exact ⟨_, _, .arrow head' read', .arrow _ trees, alike₂⟩
  | _, _, _, .plain head read ends, _, alike => by
    obtain ⟨e', rest', read', trees, alike₁⟩ := read.alike alike
    exact ⟨_, _, .plain (arrowHead?_alike_none alike head) read'
      (alike₁.head_ne (by simp [Fixed]) ends), trees, alike₁⟩
  | _, _, _, .conditional head first second third, _, alike => by
    obtain ⟨test, rest₁, first', tests, alike₁⟩ := first.alike alike
    obtain ⟨r, rfl, alike₂⟩ := alike₁.fixed (by simp [Fixed])
    obtain ⟨consequent, rest₂, second', consequents, alike₃⟩ := second.alike alike₂
    obtain ⟨r, rfl, alike₄⟩ := alike₃.fixed (by simp [Fixed])
    obtain ⟨alternate, rest₃, third', alternates, alike₅⟩ := third.alike alike₄
    exact ⟨_, _, .conditional (arrowHead?_alike_none alike head) first' second' third',
      .conditional tests consequents alternates, alike₅⟩

theorem ReadsBinary.alike : ∀ {level : Nat} {ts : List Token} {e : Expr} {rest : List Token},
    ReadsBinary level ts e rest → ∀ {ts' : List Token}, TokensAlike texts documents ts ts' →
      ∃ e' rest', ReadsBinary level ts' e' rest' ∧ Expr.Alike texts documents e e' ∧
        TokensAlike texts documents rest rest'
  | _, _, _, _, .operand top read, _, alike => by
    obtain ⟨e', rest', read', trees, alike₁⟩ := read.alike alike
    exact ⟨_, _, .operand top read', trees, alike₁⟩
  | _, _, _, _, .chain inner first more, _, alike => by
    obtain ⟨left', r', first', lefts, alike₁⟩ := first.alike alike
    obtain ⟨e', rest', more', trees, alike₂⟩ := more.alike lefts alike₁
    exact ⟨_, _, .chain inner first' more', trees, alike₂⟩

theorem ReadsOperands.alike : ∀ {level : Nat} {left : Expr} {ts : List Token} {e : Expr}
    {rest : List Token}, ReadsOperands level left ts e rest →
      ∀ {left' : Expr}, Expr.Alike texts documents left left' →
      ∀ {ts' : List Token}, TokensAlike texts documents ts ts' →
        ∃ e' rest', ReadsOperands level left' ts' e' rest' ∧ Expr.Alike texts documents e e' ∧
          TokensAlike texts documents rest rest'
  | level, _, _, _, _, .done ends, _, lefts, _, alike =>
    ⟨_, _, .done (alike.head (fun _ => operator?_openBrace level) (operator?_string level) ends),
      lefts, alike⟩
  | _, _, _, _, _, .more operator next others, _, lefts, _, alike => by
    obtain ⟨r, rfl, alike₁⟩ := alike.fixed (operator?_fixed operator)
    obtain ⟨right', r', next', rights, alike₂⟩ := next.alike alike₁
    obtain ⟨e', rest', others', trees, alike₃⟩ := others.alike (lefts.apply _ rights) alike₂
    exact ⟨_, _, .more operator next' others', trees, alike₃⟩

theorem ReadsUnary.alike : ∀ {ts : List Token} {e : Expr} {rest : List Token},
    ReadsUnary ts e rest → ∀ {ts' : List Token}, TokensAlike texts documents ts ts' →
      ∃ e' rest', ReadsUnary ts' e' rest' ∧ Expr.Alike texts documents e e' ∧
        TokensAlike texts documents rest rest'
  | _, _, _, .operator operator read, _, alike => by
    obtain ⟨r, rfl, alike₁⟩ := alike.fixed (unaryOp?_fixed operator)
    obtain ⟨e', rest', read', trees, alike₂⟩ := read.alike alike₁
    exact ⟨_, _, .operator operator read', .unary _ trees, alike₂⟩
  | _, _, _, .operand _ first more, _, alike => by
    obtain ⟨t', r', e', rest', rfl, first', trees, alike₁⟩ := first.alike alike
    obtain ⟨e'', rest'', more', trees, alike₂⟩ := more.alike trees alike₁
    exact ⟨_, _, .operand first'.unaryOp?_eq_none first' more', trees, alike₂⟩

theorem ReadsAccesses.alike : ∀ {e : Expr} {ts : List Token} {f : Expr} {rest : List Token},
    ReadsAccesses e ts f rest → ∀ {e' : Expr}, Expr.Alike texts documents e e' →
      ∀ {ts' : List Token}, TokensAlike texts documents ts ts' →
        ∃ f' rest', ReadsAccesses e' ts' f' rest' ∧ Expr.Alike texts documents f f' ∧
          TokensAlike texts documents rest rest'
  | _, _, _, _, .done ends, _, trees, _, alike =>
    ⟨_, _, .done (alike.head (fun absurd => by cases absurd) (fun _ => rfl) ends), trees, alike⟩
  | _, _, _, _, .member others, _, trees, _, alike => by
    obtain ⟨r, rfl, alike₁⟩ := alike.fixed (by simp [Fixed])
    obtain ⟨r, rfl, alike₂⟩ := alike₁.fixed (by simp [Fixed])
    obtain ⟨f', rest', others', trees, alike₃⟩ := others.alike (.member _ _ trees) alike₂
    exact ⟨_, _, .member others', trees, alike₃⟩
  | _, _, _, _, .optionalMember others, _, trees, _, alike => by
    obtain ⟨r, rfl, alike₁⟩ := alike.fixed (by simp [Fixed])
    obtain ⟨r, rfl, alike₂⟩ := alike₁.fixed (by simp [Fixed])
    obtain ⟨f', rest', others', trees, alike₃⟩ := others.alike (.member _ _ trees) alike₂
    exact ⟨_, _, .optionalMember others', trees, alike₃⟩
  | _, _, _, _, .index inner others, _, trees, _, alike => by
    obtain ⟨r, rfl, alike₁⟩ := alike.bracket inner.head_ne
    obtain ⟨key', r', inner', keys, alike₂⟩ := inner.alike alike₁
    obtain ⟨r, rfl, alike₃⟩ := alike₂.fixed (by simp [Fixed])
    obtain ⟨f', rest', others', trees, alike₄⟩ := others.alike (.index _ trees keys) alike₃
    exact ⟨_, _, .index inner' others', trees, alike₄⟩
  | _, _, _, _, .optionalIndex inner others, _, trees, _, alike => by
    obtain ⟨r, rfl, alike₁⟩ := alike.fixed (by simp [Fixed])
    obtain ⟨r, rfl, alike₂⟩ := alike₁.bracket inner.head_ne
    obtain ⟨key', r', inner', keys, alike₃⟩ := inner.alike alike₂
    obtain ⟨r, rfl, alike₄⟩ := alike₃.fixed (by simp [Fixed])
    obtain ⟨f', rest', others', trees, alike₅⟩ := others.alike (.index _ trees keys) alike₄
    exact ⟨_, _, .optionalIndex inner' others', trees, alike₅⟩
  | _, _, _, _, .call inner others, _, trees, _, alike => by
    obtain ⟨r, rfl, alike₁⟩ := alike.fixed (by simp [Fixed])
    obtain ⟨args', r', inner', args, alike₂⟩ := inner.alike (by simp [Fixed]) alike₁
    obtain ⟨f', rest', others', trees, alike₃⟩ := others.alike (.call trees args) alike₂
    exact ⟨_, _, .call inner' others', trees, alike₃⟩

theorem ReadsPrimary.alike : ∀ {t : Token} {ts : List Token} {e : Expr} {rest : List Token},
    ReadsPrimary t ts e rest → ∀ {ts' : List Token}, TokensAlike texts documents (t :: ts) ts' →
      ∃ t' r' e' rest', ts' = t' :: r' ∧ ReadsPrimary t' r' e' rest' ∧
        Expr.Alike texts documents e e' ∧ TokensAlike texts documents rest rest'
  | _, _, _, _, .number, _, alike => by
    obtain ⟨r, rfl, alike₁⟩ := alike.fixed (by simp [Fixed])
    exact ⟨_, _, _, _, rfl, .number, .same _, alike₁⟩
  | _, _, _, _, .string, _, alike => by
    cases alike with
    | same t others => exact ⟨_, _, _, _, rfl, .string, .same _, others⟩
    | text related others => exact ⟨_, _, _, _, rfl, .string, .text related, others⟩
  | _, _, _, _, .template parts, _, alike => by
    obtain ⟨r, rfl, alike₁⟩ := alike.fixed (by simp [Fixed])
    exact ⟨_, _, _, _, rfl, .template parts, .same _, alike₁⟩
  | _, _, _, _, .ident, _, alike => by
    obtain ⟨r, rfl, alike₁⟩ := alike.fixed (by simp [Fixed])
    exact ⟨_, _, _, _, rfl, .ident, .same _, alike₁⟩
  | _, _, _, _, .parens inner, _, alike => by
    obtain ⟨r, rfl, alike₁⟩ := alike.fixed (by simp [Fixed])
    obtain ⟨e', r', inner', trees, alike₂⟩ := inner.alike alike₁
    obtain ⟨r, rfl, alike₃⟩ := alike₂.fixed (by simp [Fixed])
    exact ⟨_, _, _, _, rfl, .parens inner', trees, alike₃⟩
  | _, _, _, _, .array inner, _, alike => by
    cases alike with
    | same t others =>
      obtain ⟨items', rest', inner', trees, alike₁⟩ := inner.alike (by simp [Fixed]) others
      exact ⟨_, _, _, _, rfl, .array inner', .array trees, alike₁⟩
    | document opens reads allowed others =>
      cases inner with
      | done => exact ⟨_, _, _, _, rfl, reads _, .document allowed, others⟩
      | last opens notComma item => exact absurd rfl opens
      | more opens item others => exact absurd rfl opens
  | _, _, _, _, .object inner, _, alike => by
    cases alike with
    | same t others =>
      obtain ⟨members', rest', inner', trees, alike₁⟩ := inner.alike others
      exact ⟨_, _, _, _, rfl, .object inner', .object trees, alike₁⟩

theorem ReadsList.alike : ∀ {close : Token} {ts : List Token} {items : List Expr}
    {rest : List Token}, ReadsList close ts items rest → Fixed close →
      ∀ {ts' : List Token}, TokensAlike texts documents ts ts' →
        ∃ items' rest', ReadsList close ts' items' rest' ∧
          ItemsAlike texts documents items items' ∧ TokensAlike texts documents rest rest'
  | _, _, _, _, .done, fixed, _, alike => by
    obtain ⟨r, rfl, alike₁⟩ := alike.fixed fixed
    exact ⟨_, _, .done, .nil, alike₁⟩
  | _, _, _, _, .last opens notComma item, fixed, _, alike => by
    obtain ⟨e', r', item', trees, alike₁⟩ := item.alike alike
    obtain ⟨r, rfl, alike₂⟩ := alike₁.fixed fixed
    exact ⟨_, _, .last (alike.head_ne fixed opens) notComma item', .cons trees .nil, alike₂⟩
  | _, _, _, _, .more opens item more, fixed, _, alike => by
    obtain ⟨e', r', item', trees, alike₁⟩ := item.alike alike
    obtain ⟨r, rfl, alike₂⟩ := alike₁.fixed (by simp [Fixed])
    obtain ⟨items', rest', more', treesMore, alike₃⟩ := more.alike fixed alike₂
    exact ⟨_, _, .more (alike.head_ne fixed opens) item' more', .cons trees treesMore, alike₃⟩

theorem ReadsEntries.alike : ∀ {ts : List Token} {members : List (String × Expr)}
    {rest : List Token}, ReadsEntries ts members rest →
      ∀ {ts' : List Token}, TokensAlike texts documents ts ts' →
        ∃ members' rest', ReadsEntries ts' members' rest' ∧
          MembersAlike texts documents members members' ∧ TokensAlike texts documents rest rest'
  | _, _, _, .done, _, alike => by
    obtain ⟨r, rfl, alike₁⟩ := alike.fixed (by simp [Fixed])
    exact ⟨_, _, .done, .nil, alike₁⟩
  | _, _, _, .last named value, _, alike => by
    obtain ⟨t', key', r, rfl, named', keys, alike₁⟩ := entryKey?_alike named alike
    obtain ⟨r, rfl, alike₂⟩ := alike₁.fixed (by simp [Fixed])
    obtain ⟨e', r', value', trees, alike₃⟩ := value.alike alike₂
    obtain ⟨r, rfl, alike₄⟩ := alike₃.fixed (by simp [Fixed])
    exact ⟨_, _, .last named' value', .cons keys trees .nil, alike₄⟩
  | _, _, _, .more named value more, _, alike => by
    obtain ⟨t', key', r, rfl, named', keys, alike₁⟩ := entryKey?_alike named alike
    obtain ⟨r, rfl, alike₂⟩ := alike₁.fixed (by simp [Fixed])
    obtain ⟨e', r', value', trees, alike₃⟩ := value.alike alike₂
    obtain ⟨r, rfl, alike₄⟩ := alike₃.fixed (by simp [Fixed])
    obtain ⟨members', rest', more', treesMore, alike₅⟩ := more.alike alike₄
    exact ⟨_, _, .more named' value' more', .cons keys trees treesMore, alike₅⟩

end

/-- **Texts whose tokens are alike parse alike.** -/
theorem parse_alike {s s' : List Char} {ts ts' : List Token} (tokens : tokens? s = some ts)
    (tokens' : tokens? s' = some ts') (alike : TokensAlike texts documents ts ts') {e : Expr}
    (parsed : parse s = .ok e) : ∃ e', parse s' = .ok e' ∧ Expr.Alike texts documents e e' := by
  obtain ⟨us, tokensAgain, reads⟩ := parse_eq_ok_iff.1 parsed
  obtain rfl : ts = us := Option.some.inj (tokens.symm.trans tokensAgain)
  obtain ⟨e', rest', reads', trees, ends⟩ := reads.alike alike
  cases ends
  exact ⟨e', parse_eq_ok_iff.2 ⟨ts', tokens', reads'⟩, trees⟩

end Formulary.Script
