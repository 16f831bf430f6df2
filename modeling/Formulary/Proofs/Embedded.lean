import Formulary.Proofs.Grammar
import Formulary.Proofs.Numeral
import Formulary.Script.Eval
import Mathlib.Data.Nat.Init

/-!
# Expressions inside templates

The source of a substitution ends at the brace that closes it, which is looked for character by
character before anything is parsed. Where the source is an expression that brace is the one after
it: what is passed over as quoted text are its strings and templates, and its braces balance.

* `Grammar.Expression.balanced`: the braces of an expression balance.
* `lexSubstitution_tokens`: a text that is cut into tokens is passed over as a whole.
* `parse_embedded`: every expression parses in a template, and is shown as text there.
-/

namespace Formulary.Script

/-! ## Braces of expressions -/

/-- The number of braces open after the tokens, `depth` of them open before; none if a brace closes
that was not open. -/
def braceDepth? : (depth : Nat) → List Token → Option Nat
  | depth, [] => some depth
  | depth, .openBrace :: ts => braceDepth? (depth + 1) ts
  | 0, .closeBrace :: _ => none
  | depth + 1, .closeBrace :: ts => braceDepth? depth ts
  | depth, _ :: ts => braceDepth? depth ts

/-- The tokens close the braces that they open, and no others. -/
def Balanced (ts : List Token) : Prop :=
  ∀ depth more, braceDepth? depth (ts ++ more) = braceDepth? depth more

def Token.isBrace : Token → Bool
  | .openBrace | .closeBrace => true
  | _ => false

theorem braceDepth?_cons {t : Token} (other : t.isBrace = false) (depth : Nat)
    (ts : List Token) : braceDepth? depth (t :: ts) = braceDepth? depth ts := by
  cases t with
  | openBrace | closeBrace => cases other
  | _ => rw [braceDepth?] <;> simp

theorem balanced_nil : Balanced [] := fun _ _ => rfl

theorem Balanced.cons {t : Token} {ts : List Token} (other : t.isBrace = false)
    (rest : Balanced ts) : Balanced (t :: ts) := by
  intro depth more
  rw [List.cons_append, braceDepth?_cons other]
  exact rest depth more

theorem Balanced.append {ts us : List Token} (first : Balanced ts) (second : Balanced us) :
    Balanced (ts ++ us) := by
  intro depth more
  rw [List.append_assoc, first, second]

theorem Balanced.braces {ts : List Token} (inner : Balanced ts) :
    Balanced (.openBrace :: (ts ++ [.closeBrace])) := by
  intro depth more
  show braceDepth? (depth + 1) (ts ++ [.closeBrace] ++ more) = _
  rw [List.append_assoc, inner]
  rfl

theorem balanced_singleton {t : Token} (other : t.isBrace = false) : Balanced [t] :=
  balanced_nil.cons other

namespace Grammar

theorem Joins.isBrace_eq_false {level : Nat} {t : Token} {op : Operator}
    (joins : Joins level t op) : t.isBrace = false := by
  cases joins <;> rfl

theorem Signs.isBrace_eq_false {t : Token} {op : UnaryOp} (signs : Signs t op) :
    t.isBrace = false := by
  cases signs <;> rfl

theorem Names.isBrace_eq_false {t : Token} {key : String} (names : Names t key) :
    t.isBrace = false := by
  cases names <;> rfl

/-- The tokens of an expression between others that are no braces. -/
theorem balanced_between {t t' : Token} {us ts : List Token} (before : Balanced us)
    (opens : t.isBrace = false) (inner : Balanced ts) (closes : t'.isBrace = false) :
    Balanced (us ++ t :: (ts ++ [t'])) :=
  before.append ((inner.append (balanced_singleton closes)).cons opens)

mutual

/-- **The braces of an expression balance.** -/
theorem Expression.balanced : ∀ {ts : List Token} {e : Expr}, Expression ts e → Balanced ts
  | _, _, .arrow body => (body.balanced.cons rfl).cons rfl
  | _, _, .arrowInParens body =>
    (((body.balanced.cons rfl).cons rfl).cons rfl).cons
      rfl
  | _, _, .arrowOfNothing body =>
    ((body.balanced.cons rfl).cons rfl).cons rfl
  | _, _, .ternary inner => inner.balanced

theorem Ternary.balanced : ∀ {ts : List Token} {e : Expr}, Ternary ts e → Balanced ts
  | _, _, .plain inner => inner.balanced
  | _, _, .conditional first second third =>
    first.balanced.append
      ((second.balanced.append (third.balanced.cons rfl)).cons rfl)

theorem Binary.balanced : ∀ {level : Nat} {ts : List Token} {e : Expr}, Binary level ts e →
    Balanced ts
  | _, _, _, .unary inner => inner.balanced
  | _, _, _, .tighter _ inner => inner.balanced
  | _, _, _, .join first joins second =>
    first.balanced.append (second.balanced.cons joins.isBrace_eq_false)

theorem Unary.balanced : ∀ {ts : List Token} {e : Expr}, Unary ts e → Balanced ts
  | _, _, .sign signs inner => inner.balanced.cons signs.isBrace_eq_false
  | _, _, .access inner => inner.balanced

theorem Access.balanced : ∀ {ts : List Token} {e : Expr}, Access ts e → Balanced ts
  | _, _, .primary inner => inner.balanced
  | _, _, .member object | _, _, .optionalMember object =>
    object.balanced.append ((balanced_singleton rfl).cons rfl)
  | _, _, .index object inner =>
    balanced_between object.balanced rfl inner.balanced rfl
  | _, _, .optionalIndex object inner =>
    object.balanced.append
      ((balanced_between balanced_nil rfl inner.balanced rfl).cons rfl)
  | _, _, .call callee inner =>
    balanced_between callee.balanced rfl inner.balanced rfl

theorem Primary.balanced : ∀ {ts : List Token} {e : Expr}, Primary ts e → Balanced ts
  | _, _, .number | _, _, .string | _, _, .template _ | _, _, .true | _, _, .false | _, _, .null
  | _, _, .undefined | _, _, .ident _ => balanced_singleton rfl
  | _, _, .parens inner | _, _, .array inner =>
    balanced_between balanced_nil rfl inner.balanced rfl
  | _, _, .object inner => inner.balanced.braces

theorem Items.balanced : ∀ {ts : List Token} {items : List Expr}, Items ts items → Balanced ts
  | _, _, .nil => balanced_nil
  | _, _, .last item => item.balanced
  | _, _, .cons item others => item.balanced.append (others.balanced.cons rfl)

theorem Entries.balanced : ∀ {ts : List Token} {members : List (String × Expr)},
    Entries ts members → Balanced ts
  | _, _, .nil => balanced_nil
  | _, _, .last names value => (value.balanced.cons rfl).cons names.isBrace_eq_false
  | _, _, .cons names value others =>
    ((value.balanced.append (others.balanced.cons rfl)).cons rfl).cons
      names.isBrace_eq_false

end

end Grammar

/-! ## What is left is the end of the text -/

theorem lexEscape_suffix {s rest : List Char} {c : Char} {h}
    (read : lexEscape s = .ok ⟨c, rest, h⟩) : rest <:+ s := by
  obtain ⟨e, rfl, -⟩ := lexEscape_iff.1 ⟨_, read⟩
  exact List.suffix_append e rest

theorem lexString_suffix {start : Nat} {quote : Char} {s rest text : List Char} {h}
    (read : lexString start quote s = .ok ⟨text, rest, h⟩) : rest <:+ s := by
  obtain ⟨body, rfl, -⟩ := quotes_of_lexString start s text rest read
  exact (List.suffix_cons quote rest).trans (List.suffix_append body _)

mutual

theorem lexTemplate_suffix {start : Nat} {text s rest : List Char} {chunks : List Chunk} {h}
    (read : lexTemplate start text s = .ok ⟨chunks, rest, h⟩) : rest <:+ s := by
  unfold lexTemplate at read
  split at read
  · cases read
  · cases read
    exact List.suffix_cons _ _
  · split at read
    · cases read
    · rename_i value r' shorter escape
      split at read
      · cases read
      · rename_i chunks' rest' enough inner
        cases read
        exact (lexTemplate_suffix inner).trans
          ((lexEscape_suffix escape).trans (List.suffix_cons _ _))
  · split at read
    · cases read
    · rename_i source r' shorter inside
      split at read
      · cases read
      · rename_i chunks' rest' enough inner
        cases read
        rw [source_of_lexSubstitution inside]
        exact (lexTemplate_suffix inner).trans ⟨'$' :: '\x7b' :: (source ++ ['\x7d']), by simp⟩
  · split at read
    · cases read
    · rename_i chunks' rest' enough inner
      cases read
      exact (lexTemplate_suffix inner).trans (List.suffix_cons _ _)
termination_by s.length
decreasing_by all_goals (subst_vars; simp only [List.length_cons]; omega)

/-- The source is the text up to the brace that closes the substitution. -/
theorem source_of_lexSubstitution {start depth : Nat} {s source rest : List Char} {h}
    (read : lexSubstitution start depth s = .ok ⟨source, rest, h⟩) :
    s = source ++ '\x7d' :: rest := by
  unfold lexSubstitution at read
  split at read
  · cases read
  · rename_i c r
    split at read
    · rename_i closes
      split at read
      · cases read
        rw [closes]
        rfl
      · split at read
        · cases read
        · rename_i inner
          cases read
          rw [source_of_lexSubstitution inner, List.cons_append]
    · split at read
      · split at read
        · cases read
        · rename_i inner
          cases read
          rw [source_of_lexSubstitution inner, List.cons_append]
      · split at read
        · split at read
          · cases read
          · rename_i text r' shorter quoted
            split at read
            · cases read
            · rename_i inner
              cases read
              have whole := List.suffix_iff_eq_append.1 (lexString_suffix quoted)
              rw [List.append_assoc, ← source_of_lexSubstitution inner, List.cons_append, whole]
        · split at read
          · split at read
            · cases read
            · rename_i chunks r' light template
              split at read
              · cases read
              · rename_i inner
                cases read
                have whole := List.suffix_iff_eq_append.1 (lexTemplate_suffix template)
                rw [List.append_assoc, ← source_of_lexSubstitution inner, List.cons_append, whole]
          · split at read
            · cases read
            · rename_i inner
              cases read
              rw [source_of_lexSubstitution inner, List.cons_append]
termination_by s.length
decreasing_by all_goals (subst_vars; simp only [List.length_cons]; omega)

end

/-! ## Passing over a text -/

/-- A character that only stands for itself in the source of a substitution. -/
def IsOrdinary (c : Char) : Prop := IsPlain c ∧ c ≠ '\x7b' ∧ c ≠ '\x7d'

instance (c : Char) : Decidable (IsOrdinary c) := inferInstanceAs (Decidable (_ ∧ _ ∧ _))

/-- Whatever closes a substitution with `depth'` braces open closes it behind the text, too, where
`depth` are open before. -/
def PassedOver (depth depth' : Nat) (s : List Char) : Prop :=
  ∀ (start : Nat) (more source rest : List Char) (h),
    lexSubstitution start depth' more = .ok ⟨source, rest, h⟩ →
      ∃ source' h', lexSubstitution start depth (s ++ more) = .ok ⟨source', rest, h'⟩

variable {depth depth' : Nat} {c : Char} {s r rest : List Char}

theorem passedOver_nil (depth : Nat) : PassedOver depth depth [] :=
  fun _ _ _ _ _ read => ⟨_, _, read⟩

theorem PassedOver.cons (ordinary : IsOrdinary c) (after : PassedOver depth depth' s) :
    PassedOver depth depth' (c :: s) := by
  intro start more source rest h read
  obtain ⟨source', _, read⟩ := after start more source rest h read
  obtain ⟨⟨double, single, back⟩, opens, closes⟩ := ordinary
  rw [List.cons_append, lexSubstitution.eq_def]
  dsimp only
  rw [if_neg closes, if_neg opens,
    if_neg (not_or.2 ⟨double, single⟩), if_neg back, read]
  exact ⟨_, _, rfl⟩

theorem PassedOver.append (ordinary : ∀ c ∈ r, IsOrdinary c) (after : PassedOver depth depth' s) :
    PassedOver depth depth' (r ++ s) := by
  induction r with
  | nil => exact after
  | cons c r ih =>
    have first := ordinary c List.mem_cons_self
    exact (ih fun d among => ordinary d (List.mem_cons_of_mem c among)).cons first

theorem PassedOver.opens (after : PassedOver (depth + 1) depth' s) :
    PassedOver depth depth' ('\x7b' :: s) := by
  intro start more source rest h read
  obtain ⟨source', _, read⟩ := after start more source rest h read
  rw [List.cons_append, lexSubstitution.eq_def]
  dsimp only
  rw [if_neg (by decide), if_pos rfl, read]
  exact ⟨_, _, rfl⟩

theorem PassedOver.closes (after : PassedOver depth depth' s) :
    PassedOver (depth + 1) depth' ('\x7d' :: s) := by
  intro start more source rest h read
  obtain ⟨source', _, read⟩ := after start more source rest h read
  rw [List.cons_append, lexSubstitution.eq_def]
  dsimp only
  rw [if_pos rfl, read]
  exact ⟨_, _, rfl⟩

theorem PassedOver.string {start : Nat} {text : List Char} {h} (quote : c = '"' ∨ c = '\'')
    (quoted : lexString start c r = .ok ⟨text, rest, h⟩) (after : PassedOver depth depth' rest) :
    PassedOver depth depth' (c :: r) := by
  intro start more source last h read
  obtain ⟨source', _, read⟩ := after start more source last h read
  obtain ⟨_, quoted⟩ := lexString_append quote quoted ((r ++ more).length + 1) more
  have brace : c ≠ '\x7d' ∧ c ≠ '\x7b' := by rcases quote with rfl | rfl <;> decide
  rw [List.cons_append, lexSubstitution.eq_def]
  dsimp only
  rw [if_neg brace.1, if_neg brace.2, if_pos quote, quoted]
  dsimp only
  rw [read]
  exact ⟨_, _, rfl⟩

theorem PassedOver.template {start : Nat} {chunks : List Chunk} {h} (quote : c = '\x60')
    (quoted : lexTemplate start [] r = .ok ⟨chunks, rest, h⟩)
    (after : PassedOver depth depth' rest) : PassedOver depth depth' (c :: r) := by
  intro start more source last h read
  obtain ⟨source', _, read⟩ := after start more source last h read
  obtain ⟨_, quoted⟩ := lexTemplate_append quoted ((r ++ more).length + 1) more
  subst quote
  rw [List.cons_append, lexSubstitution.eq_def]
  dsimp only
  rw [if_neg (by decide), if_neg (by decide),
    if_neg (by decide), if_pos rfl, quoted]
  dsimp only
  rw [read]
  exact ⟨_, _, rfl⟩

/-! ## Passing over tokens -/

theorem isOrdinary_of_isGap (gap : isGap c = true) : IsOrdinary c := by
  simp only [isGap, Bool.or_eq_true, decide_eq_true_eq] at gap
  rcases gap with ((rfl | rfl) | rfl) | rfl <;> decide

theorem isOrdinary_of_isNamePart (part : isNamePart c = true) : IsOrdinary c := by
  have apart : ∀ d ∈ ['"', '\'', '\x60', '\x7b', '\x7d'], c ≠ d := by
    have none : ∀ d ∈ ['"', '\'', '\x60', '\x7b', '\x7d'], isNamePart d = false := by
      decide +kernel
    rintro d among rfl
    rw [none c among] at part
    cases part
  simpa [IsOrdinary, IsPlain, and_assoc] using apart

theorem isNamePart_of_isNameStart (first : isNameStart c = true) : isNamePart c = true := by
  simp only [isNameStart, isNamePart, Text.isAlphanumeric, Bool.or_eq_true] at first ⊢
  exact first.imp_left (Or.imp_left Or.inl)

theorem isOrdinary_of_isDigit (digit : c.isDigit = true) : IsOrdinary c := by
  have apart {d : Char} (other : d.isDigit = false) : c ≠ d := ne_of_isDigit digit other
  exact ⟨⟨apart rfl, apart rfl, apart rfl⟩, apart rfl, apart rfl⟩

theorem isOrdinary_exponentPart (s : List Char) : ∀ c ∈ exponentPart s, IsOrdinary c := by
  have digits (r : List Char) : ∀ c ∈ r.takeWhile Char.isDigit, IsOrdinary c :=
    fun c among => isOrdinary_of_isDigit (List.all_eq_true.1 List.all_takeWhile c among)
  have front (mark : Char) (sign r : List Char) (marked : IsOrdinary mark)
      (signed : ∀ c ∈ sign, IsOrdinary c) :
      ∀ c ∈ (if (r.takeWhile Char.isDigit).isEmpty then []
        else mark :: sign ++ r.takeWhile Char.isDigit), IsOrdinary c := by
    split
    · exact fun c among => absurd among List.not_mem_nil
    · rw [List.cons_append]
      exact List.forall_mem_cons.2 ⟨marked, List.forall_mem_append.2 ⟨signed, digits r⟩⟩
  unfold exponentPart
  split
  · rename_i mark r
    dsimp only
    split
    · rename_i isMark
      have marked : IsOrdinary mark := by rcases isMark with rfl | rfl <;> decide
      split
      · exact front mark ['+'] _ marked (by decide)
      · exact front mark ['-'] _ marked (by decide)
      · exact front mark [] _ marked (by decide)
    · exact fun c among => absurd among List.not_mem_nil
  · exact fun c among => absurd among List.not_mem_nil

theorem isOrdinary_numeral (s : List Char) : ∀ c ∈ numeral s, IsOrdinary c := by
  refine List.forall_mem_append.2 ⟨fun c among => ?_, isOrdinary_exponentPart _⟩
  have inside := List.all_eq_true.1 List.all_takeWhile c among
  rw [Bool.or_eq_true, decide_eq_true_eq] at inside
  rcases inside with digit | rfl
  · exact isOrdinary_of_isDigit digit
  · decide

theorem prefix_numeral (s : List Char) : numeral s <+: s := by
  obtain ⟨rest, shape⟩ :=
    exponentPart_prefix (s.drop (s.takeWhile fun c => c.isDigit || c = '.').length)
  refine ⟨rest, ?_⟩
  unfold numeral
  dsimp only
  rw [List.append_assoc, shape]
  exact List.prefix_iff_eq_append.1 (List.takeWhile_prefix _)

theorem numeral_ne_nil (starts : startsNumber (c :: r) = true) : numeral (c :: r) ≠ [] := by
  have first : (c.isDigit || c = '.') = true := by
    unfold startsNumber at starts
    split at starts
    · rename_i shape
      cases shape
      rfl
    · rename_i shape
      cases shape
      rw [starts, Bool.true_or]
    · cases starts
  unfold numeral
  dsimp only
  rw [List.takeWhile_cons, first]
  exact List.cons_ne_nil _ _

/-- A sign is a brace, or has only ordinary characters. -/
theorem punctuation?_cases {t : Token} {width : Nat} (found : punctuation? s = some (t, width)) :
    (t.isBrace = false ∧ 0 < width ∧ ∀ c ∈ s.take width, IsOrdinary c) ∨
      (width = 1 ∧ (t = .openBrace ∧ s.head? = some '\x7b' ∨
        t = .closeBrace ∧ s.head? = some '\x7d')) := by
  unfold punctuation? at found
  split at found
  case h_2 =>
    -- A question mark may be followed by a point that belongs to it.
    refine Or.inl ?_
    split at found
    all_goals
      cases found
      simp only [List.take_succ_cons, List.take_zero]
      decide
  case h_21 =>
    cases found
    exact Or.inr ⟨rfl, Or.inl ⟨rfl, rfl⟩⟩
  case h_22 =>
    cases found
    exact Or.inr ⟨rfl, Or.inr ⟨rfl, rfl⟩⟩
  case h_31 => cases found
  all_goals
    cases found
    refine Or.inl ?_
    simp only [List.take_succ_cons, List.take_zero]
    decide

/-- What a token takes is passed over if it stands for itself. -/
theorem PassedOver.taken {n : Nat} (positive : 0 < n)
    (ordinary : ∀ d ∈ (c :: r).take n, IsOrdinary d)
    (after : PassedOver depth depth' (r.drop (n - 1))) : PassedOver depth depth' (c :: r) := by
  obtain ⟨k, rfl⟩ : ∃ k, n = k + 1 := ⟨n - 1, by omega⟩
  have whole : (c :: r).take (k + 1) ++ r.drop k = c :: r := List.take_append_drop (k + 1) (c :: r)
  rw [← whole]
  exact after.append ordinary

/-- **A token is passed over**, with the brace that it may be counted. -/
theorem ReadsToken.passedOver {t : Token} {ts : List Token} (reads : ReadsToken c r t rest)
    (braces : braceDepth? depth (t :: ts) = some depth')
    (after : ∀ {k}, braceDepth? k ts = some depth' → PassedOver k depth' rest) :
    PassedOver depth depth' (c :: r) := by
  cases reads with
  | string quote read => exact (after braces).string quote read
  | template quote read => exact (after braces).template quote read
  | number plain starts spells =>
    have taken := List.prefix_iff_eq_take.1 (prefix_numeral (c :: r))
    refine .taken (List.length_pos_iff.2 (numeral_ne_nil starts)) ?_ (after braces)
    rw [← taken]
    exact isOrdinary_numeral _
  | sign plain notNumber found =>
    rcases punctuation?_cases found with ⟨other, positive, ordinary⟩ | ⟨rfl, brace⟩
    · rw [braceDepth?_cons other] at braces
      exact .taken positive ordinary (after braces)
    · rcases brace with ⟨rfl, first⟩ | ⟨rfl, first⟩
      · cases first
        exact (after braces).opens
      · cases first
        cases depth with
        | zero => cases braces
        | succ depth => exact (after braces).closes
  | name plain notNumber start =>
    have whole : c :: r = c :: r.takeWhile isNamePart ++ r.dropWhile isNamePart := by
      rw [List.cons_append, List.takeWhile_append_dropWhile]
    rw [whole]
    refine (after braces).append (List.forall_mem_cons.2 ⟨?_, fun d among => ?_⟩)
    · exact isOrdinary_of_isNamePart (isNamePart_of_isNameStart start)
    · exact isOrdinary_of_isNamePart (List.all_eq_true.1 List.all_takeWhile d among)

/-- **A text that is cut into tokens is passed over**, with its braces counted. -/
theorem passedOver_of_tokens? {ts : List Token} (tokens : tokens? s = some ts)
    (braces : braceDepth? depth ts = some depth') : PassedOver depth depth' s := by
  obtain ⟨light, cut⟩ := tokens?_eq_some_iff.1 tokens
  clear tokens
  fun_induction lexAll s generalizing ts depth with
  | case1 =>
    cases cut
    cases braces
    exact passedOver_nil _
  | case2 | case4 | case5 => cases cut
  | case3 c r gap us light' inner ih =>
    cases cut
    exact (ih braces _ inner).cons (isOrdinary_of_isGap gap)
  | case6 c r solid t rest enough read _ us light' inner ih =>
    cases cut
    exact (lexToken_eq_ok_iff.1 ⟨_, read⟩).passedOver braces fun braces => ih braces _ inner

/-! ## Templates of one substitution -/

/-- Accesses and calls are an expression without any operator. -/
theorem Grammar.Access.expression {ts : List Token} {e : Expr} (access : Access ts e) :
    Expression ts e := by
  have levels {level : Nat} (inside : level ≤ operandLevel) : Binary level ts e := by
    induction inside using Nat.decreasingInduction with
    | self => exact .unary (.access access)
    | of_succ level below ih => exact .tighter below ih
  exact .ternary (.plain (levels (Nat.zero_le _)))

/-- A template that has the text as its only substitution. -/
def embedded (s : List Char) : List Char := '\x60' :: '$' :: '\x7b' :: (s ++ ['\x7d', '\x60'])

variable {e : Expr}

/-- The source of the substitution is the whole expression. -/
theorem lexSubstitution_of_parse (parsed : parse s = .ok e) (start : Nat) (more : List Char) :
    ∃ h, lexSubstitution start 0 (s ++ '\x7d' :: more) = .ok ⟨s, more, h⟩ := by
  obtain ⟨ts, tokens, derives⟩ := textDerives s e parsed
  have balanced : braceDepth? 0 ts = some 0 := by
    have whole := derives.balanced 0 []
    rwa [List.append_nil] at whole
  have closed : lexSubstitution start 0 ('\x7d' :: more) = .ok ⟨[], more, enough_nil _ more⟩ := by
    rw [lexSubstitution.eq_def]
    rfl
  obtain ⟨source, h, read⟩ := passedOver_of_tokens? tokens balanced start _ _ _ _ closed
  obtain rfl : s = source := List.append_cancel_right (source_of_lexSubstitution read)
  exact ⟨h, read⟩

theorem tokens?_embedded (parsed : parse s = .ok e) :
    tokens? (embedded s) = some [.template [.source s]] := by
  have template (start : Nat) : ∃ h,
      lexTemplate start [] ('$' :: '\x7b' :: (s ++ ['\x7d', '\x60'])) =
        .ok ⟨[.source s], [], h⟩ := by
    obtain ⟨_, inside⟩ := lexSubstitution_of_parse parsed
      ((s ++ ['\x7d', '\x60']).length + 1) ['\x60']
    have last : ∃ h, lexTemplate start [] ['\x60'] = .ok ⟨[], [], h⟩ := by
      rw [lexTemplate]
      exact ⟨_, rfl⟩
    obtain ⟨_, last⟩ := last
    rw [lexTemplate, inside]
    dsimp only
    rw [last]
    exact ⟨_, rfl⟩
  obtain ⟨_, template⟩ := template _
  rw [embedded, tokens?_token (by decide) (.template rfl template), tokens?_nil]
  rfl

/-- Whatever is bound, a template of one substitution shows the value of its expression as text,
and fails as the expression does. -/
theorem eval_template_expr (now : Calendar.Instant) (e : Expr) :
    (Expr.template [.expr e]).eval now = (fun v => .string v.displayText) <$> e.eval now := by
  simp [Expr.eval, evalPieces, Json.displayText, textValue]

theorem value_template_expr (now : Calendar.Instant) (e : Expr) :
    (Expr.template [.expr e]).value now = (e.value now).map fun v => .string v.displayText := by
  rw [Expr.value, Expr.value, eval_template_expr, ExceptT.run_map, StateT.run_map]
  obtain ⟨result, scopes⟩ := (e.eval now).run.run []
  cases result <;> rfl

/-- **Every expression can stand in a template.** The template parses to the expression as its only
piece; its value is the value of the expression as text, and it fails with the same error. -/
theorem parse_embedded (parsed : parse s = .ok e) :
    parse (embedded s) = .ok (.template [.expr e]) ∧
      (∀ now v, e.value now = .ok v → evaluate now (embedded s) = .ok (.string v.displayText)) ∧
      ∀ now error, e.value now = .error error → evaluate now (embedded s) = .error error := by
  have whole : parse (embedded s) = .ok (.template [.expr e]) := by
    obtain ⟨ts, tokens, derives⟩ := textDerives s e parsed
    have template := Grammar.Primary.template (.source tokens derives .nil)
    have reads := (Grammar.Access.primary template).expression.reads Grammar.ends_nil
    exact parse_eq_ok_iff.2 ⟨_, tokens?_embedded parsed, reads⟩
  have valued (now : Calendar.Instant) :
      evaluate now (embedded s) = (e.value now).map fun v => .string v.displayText := by
    rw [evaluate, whole, ← value_template_expr]
    rfl
  refine ⟨whole, fun now v value => ?_, fun now error fails => ?_⟩
  · rw [valued, value]
    rfl
  · rw [valued, fails]
    rfl

/-! ## An example -/

/-- The property of an object that holds a brace. -/
def braced : Expr := .member (.object [("a", .literal (.string "\x7d"))]) "a" false

theorem parse_braced : parse "\x7ba: '\x7d'\x7d.a".toList = .ok braced := by
  have value : Grammar.Expression [.string ['\x7d']] (.literal (.string "\x7d")) :=
    (Grammar.Access.primary .string).expression
  have object := Grammar.Primary.object (.last (t := .ident "a") .ident value)
  have member : Grammar.Access (_ ++ [.dot, .ident "a"]) braced := .member (.primary object)
  exact parse_eq_ok_iff.2 ⟨_, by decide +kernel, member.expression.reads Grammar.ends_nil⟩

/-- A template in a template, around braces and a string with a brace. -/
theorem parse_embedded_braced :
    parse (embedded (embedded "\x7ba: '\x7d'\x7d.a".toList)) =
        .ok (.template [.expr (.template [.expr braced])]) ∧
      evaluate 0 (embedded (embedded "\x7ba: '\x7d'\x7d.a".toList)) = .ok (.string "\x7d") := by
  obtain ⟨outer, values, -⟩ := parse_embedded (parse_embedded parse_braced).1
  exact ⟨outer, values 0 (.string "\x7d") rfl⟩

end Formulary.Script
