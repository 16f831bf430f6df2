import Formulary.Proofs.Literal
import Formulary.Proofs.Present
import Mathlib.Data.Nat.Init

/-!
# Quoted values

A value in quotes is one string literal to the lexer of expressions, and reads as that value,
whatever characters it has (`parse_quoted`). So a value spliced into an expression stays a value,
and a text that is nothing but a field reference has the field's value (`valueOfText_reference`).
-/

namespace Formulary.Script

/-- The escape by a number below 32, which has two digits. -/
theorem escape_control {c : Char} (small : c.toNat < 32) :
    Escape IsLaxUnit ['u', '0', '0', Nat.digitChar (c.toNat / 16), Nat.digitChar (c.toNat % 16)]
      c := by
  have zero : IsHexDigit '0' 0 := by decide
  have upper : IsHexDigit (Nat.digitChar (c.toNat / 16)) (c.toNat / 16) := ⟨by omega, Or.inl rfl⟩
  have lower : IsHexDigit (Nat.digitChar (c.toNat % 16)) (c.toNat % 16) := ⟨by omega, Or.inl rfl⟩
  have number : ((0 * 16 + 0) * 16 + c.toNat / 16) * 16 + c.toNat % 16 = c.toNat := by omega
  have spelt := IsHexUnit.intro zero zero upper lower
  rw [number] at spelt
  have valid : c.toNat.isValidChar := c.valid
  have escape : Escape IsLaxUnit _ _ := .number (Or.inl spelt) valid
  rwa [Char.ofNat_toNat] at escape

/-- A character is written as it is, or as an escape that reads as this character. -/
theorem escape_cases (c : Char) :
    (Json.escape c = [c] ∧ c ≠ '"' ∧ c ≠ '\\') ∨
      ∃ e, Json.escape c = '\\' :: e ∧ Escape IsLaxUnit e c := by
  unfold Json.escape
  split
  · exact Or.inr ⟨_, rfl, .letter (by decide)⟩
  · exact Or.inr ⟨_, rfl, .letter (by decide)⟩
  · exact Or.inr ⟨_, rfl, .letter (by decide)⟩
  · exact Or.inr ⟨_, rfl, .letter (by decide)⟩
  · exact Or.inr ⟨_, rfl, .letter (by decide)⟩
  · exact Or.inr ⟨_, rfl, .letter (by decide)⟩
  · exact Or.inr ⟨_, rfl, .letter (by decide)⟩
  · rename_i quote backslash _ _ _ _ _
    split
    · rename_i small
      exact Or.inr ⟨_, rfl, escape_control small⟩
    · exact Or.inl ⟨rfl, quote, backslash⟩

theorem spells_escaped (s : List Char) : Spells IsLaxUnit '"' (s.flatMap Json.escape) s := by
  induction s with
  | nil => exact .nil
  | cons c s ih =>
    rw [List.flatMap_cons]
    rcases escape_cases c with ⟨plain, notQuote, notBackslash⟩ | ⟨e, escaped, escape⟩
    · rw [plain]
      exact .plain notQuote notBackslash ih
    · rw [escaped]
      exact .escape escape ih

/-- The lexer reads an escaped text up to its closing quote as the text. -/
theorem lexString_escaped (start : Nat) (s rest : List Char) :
    ∃ h, lexString start '"' (s.flatMap Json.escape ++ '"' :: rest) = .ok ⟨s, rest, h⟩ :=
  (lexString_eq_ok_iff (Or.inl rfl)).2 ⟨_, rfl, spells_escaped s⟩

/-- **A quoted text is one token.** -/
theorem tokenize_quoted (s : List Char) :
    ∃ h, tokenize (Json.quoted s) = .ok ⟨[.string s], h⟩ := by
  obtain ⟨shorter, read⟩ :=
    lexString_escaped ((s.flatMap Json.escape ++ ['"']).length + 1) s []
  have first : ∃ h, lexToken '"' (s.flatMap Json.escape ++ ['"']) = .ok ⟨.string s, [], h⟩ := by
    unfold lexToken
    rw [if_pos (Or.inl rfl)]
    rw [read]
    exact ⟨_, rfl⟩
  obtain ⟨enough, first⟩ := first
  have all : ∃ h, lexAll (Json.quoted s) = .ok ⟨[.string s], h⟩ := by
    unfold Json.quoted
    rw [List.cons_append, lexAll, if_neg (by decide), first]
    dsimp only
    rw [lexAll]
    exact ⟨_, rfl⟩
  obtain ⟨light, all⟩ := all
  refine ⟨light, ?_⟩
  unfold tokenize
  rw [all]

/-- A literal with nothing behind it is an operand of every operator level. -/
theorem binary_string (s : List Char) {level : Nat} (inside : level ≤ operandLevel) :
    ∃ h, binary level [.string s] = .ok ⟨.literal (.string (String.ofList s)), [], h⟩ := by
  induction inside using Nat.decreasingInduction with
  | self =>
    rw [binary, if_neg (Nat.lt_irrefl _), unary]
    dsimp only [unaryOp?]
    rw [primary]
    dsimp only
    rw [accesses]
    · exact ⟨_, rfl⟩
    all_goals simp
  | of_succ level below ih =>
    obtain ⟨light, operand⟩ := ih
    rw [binary, if_pos below, operand]
    dsimp only
    rw [operands]
    exact ⟨_, rfl⟩

/-- **A quoted text parses to the literal of the text.** -/
theorem parse_quoted (s : List Char) :
    parse (Json.quoted s) = .ok (.literal (.string (String.ofList s))) := by
  have whole : ∃ h, expression [.string s] =
      .ok ⟨.literal (.string (String.ofList s)), [], h⟩ := by
    obtain ⟨light, operand⟩ := binary_string s (Nat.zero_le operandLevel)
    rw [expression]
    dsimp only [arrowHead?]
    rw [operand]
    exact ⟨_, rfl⟩
  obtain ⟨_, whole⟩ := whole
  obtain ⟨_, tokens⟩ := tokenize_quoted s
  rw [parse, tokens]
  dsimp only
  rw [whole]

end Formulary.Script

namespace Formulary.Template

/-- The block of the text is a reference to the field and nothing else. -/
structure RefersTo (raw : String) (name : List Char) : Prop where
  whole : documentCuts (Parts.ofText raw.toList).expression =
    [.text (Parts.ofText raw.toList).expression]
  alone : fieldCuts (Parts.ofText raw.toList).expression = [.reference name]

variable {store : DocumentStore} {context : Context} {raw : String} {name : List Char}

theorem RefersTo.resolvedText (refers : RefersTo raw name) :
    resolvedText store context raw = Json.quoted (fieldValue context name) := by
  unfold Template.resolvedText resolve
  rw [refers.whole]
  show quoteFields context (Parts.ofText raw.toList).expression ++ [] = _
  unfold quoteFields
  rw [refers.alone, List.append_nil, List.flatMap_singleton]

theorem RefersTo.clockFree (refers : RefersTo raw name) : ClockFree store raw := by
  intro context e parsed
  rw [refers.resolvedText, Script.parse_quoted] at parsed
  cases parsed
  rfl

/-- The value of a text is that of the expression in its block. -/
theorem valueOfText_of_parse {now : Calendar.Instant} {e : Script.Expr} {v : Json}
    (filled : (Parts.ofText raw.toList).isLiteral = false)
    (bare : (Parts.ofText raw.toList).hasAffixes = false)
    (parsed : Script.parse (resolvedText store context raw) = .ok e)
    (valued : e.value now = .ok v) :
    valueOfText now store context raw = v := by
  have read : Script.evaluate now (resolvedText store context raw) = .ok v := by
    unfold Script.evaluate
    rw [parsed]
    exact valued
  unfold valueOfText evaluateText
  dsimp only
  rw [filled, if_neg Bool.false_ne_true]
  refine answer_bind_eq ?_
  rw [Template.resolvedText] at read
  rw [read]
  dsimp only
  rw [bare, if_neg Bool.false_ne_true]

/-- **A text that is nothing but a reference has the value of the field.** -/
theorem valueOfText_reference (refers : RefersTo raw name) (now : Calendar.Instant)
    (filled : (Parts.ofText raw.toList).isLiteral = false)
    (bare : (Parts.ofText raw.toList).hasAffixes = false) :
    valueOfText now store context raw = .string (String.ofList (fieldValue context name)) := by
  have parsed : Script.parse (resolvedText store context raw) =
      .ok (.literal (.string (String.ofList (fieldValue context name)))) := by
    rw [refers.resolvedText, Script.parse_quoted]
  exact valueOfText_of_parse filled bare parsed rfl

/-- The value of a text whose block is resolved without a word. -/
theorem evaluateText_of_resolve {now : Calendar.Instant} {resolved : List Char} {v : Json}
    (filled : (Parts.ofText raw.toList).isLiteral = false)
    (bare : (Parts.ofText raw.toList).hasAffixes = false)
    (plain : resolve store context (Parts.ofText raw.toList).expression = pure resolved)
    (read : Script.evaluate now resolved = .ok v) :
    evaluateText now store context raw = pure v := by
  unfold evaluateText
  dsimp only
  rw [filled, if_neg Bool.false_ne_true, plain, pure_bind, read]
  dsimp only
  rw [bare, if_neg Bool.false_ne_true]

/-- Nothing is looked up for an expression that names no document. -/
theorem resolve_whole {s : List Char} (whole : documentCuts s = [.text s]) :
    resolve store context s = pure (quoteFields context s) := by
  unfold resolve
  rw [whole]
  show (pure (quoteFields context s ++ []) : ResolveM _) = _
  rw [List.append_nil]

/-- Nothing is looked up for a text that is nothing but a reference. -/
theorem evaluateText_reference (refers : RefersTo raw name) (now : Calendar.Instant)
    (filled : (Parts.ofText raw.toList).isLiteral = false)
    (bare : (Parts.ofText raw.toList).hasAffixes = false) :
    evaluateText now store context raw =
      pure (.string (String.ofList (fieldValue context name))) := by
  have quoted : quoteFields context (Parts.ofText raw.toList).expression =
      Json.quoted (fieldValue context name) := by
    unfold quoteFields
    rw [refers.alone, List.flatMap_singleton]
  refine evaluateText_of_resolve filled bare (resolve_whole refers.whole) ?_
  unfold Script.evaluate
  rw [quoted, Script.parse_quoted]
  rfl

/-- Nothing is looked up for a text with a reference and what follows it. -/
theorem evaluateText_follows {now : Calendar.Instant} {rest : List Char} {v : Json}
    (whole : documentCuts (Parts.ofText raw.toList).expression =
      [.text (Parts.ofText raw.toList).expression])
    (follows : fieldCuts (Parts.ofText raw.toList).expression = [.reference name, .text rest])
    (filled : (Parts.ofText raw.toList).isLiteral = false)
    (bare : (Parts.ofText raw.toList).hasAffixes = false)
    (read : Script.evaluate now (Json.quoted (fieldValue context name) ++ rest) = .ok v) :
    evaluateText now store context raw = pure v := by
  have quoted : quoteFields context (Parts.ofText raw.toList).expression =
      Json.quoted (fieldValue context name) ++ rest := by
    unfold quoteFields
    rw [follows, List.flatMap_cons, List.flatMap_singleton]
  refine evaluateText_of_resolve filled bare (resolve_whole whole) ?_
  rw [quoted]
  exact read

/-- A text without a block whose value is the text itself reads the same whatever is there. -/
theorem evaluateText_literal {text : String} (now : Calendar.Instant)
    (plain : (Parts.ofText text.toList).isLiteral = true)
    (whole : Script.textValue (Parts.ofText text.toList).affixes = .string text) :
    evaluateText now store context text = pure (.string text) := by
  unfold evaluateText
  dsimp only
  rw [plain, if_pos rfl, whole]

end Formulary.Template
