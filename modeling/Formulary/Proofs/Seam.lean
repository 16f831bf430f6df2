import Formulary.Proofs.Literal
import Formulary.Script.Parser

/-!
# Cutting a text where a token ends

The lexer looks ahead to find the end of a token, but never past a delimiter. So a text that is cut
into tokens on its own is cut into the same tokens in front of a delimiter, and what follows is cut
as if it stood alone (`lexes_of_tokens?`).
-/

namespace Formulary.Script

/-- The tokens of a text, if it can be cut into tokens. -/
def tokens? (s : List Char) : Option (List Token) := (tokenize s).toOption.map Subtype.val

theorem tokenize_eq_ok_iff {s : List Char} {ts : { ts : List Token // weight ts ≤ s.length }} :
    tokenize s = .ok ts ↔ lexAll s = .ok ts := by
  unfold tokenize
  cases lexAll s with
  | error fault => simp
  | ok found => simp

theorem tokens?_eq_some_iff {s : List Char} {ts : List Token} :
    tokens? s = some ts ↔ ∃ h, lexAll s = .ok ⟨ts, h⟩ := by
  unfold tokens? tokenize
  cases lexAll s with
  | error fault => simp [Except.toOption]
  | ok found =>
    obtain ⟨us, h⟩ := found
    constructor
    · intro same
      cases same
      exact ⟨h, rfl⟩
    · intro facts
      obtain ⟨h', same⟩ := facts
      cases same
      rfl

/-! ## Delimiters -/

/-- Characters that no token before them goes on with. -/
def delimiters : List Char := ['"', '[', ']', '\x7b', '\x7d', ',', ':']

/-- The text ends, or goes on with a delimiter. -/
def Delimited (s : List Char) : Prop := ∀ c ∈ s.head?, c ∈ delimiters

theorem delimited_nil : Delimited [] := fun _ absurd => by cases absurd

theorem delimited_cons {c : Char} (h : c ∈ delimiters) (s : List Char) : Delimited (c :: s) := by
  intro d first
  cases first
  exact h

/-- What is checked of each delimiter holds of all. -/
theorem forall_delimiters {p : Char → Prop} [DecidablePred p]
    (each : delimiters.all (fun c => decide (p c)) = true) : ∀ c ∈ delimiters, p c :=
  fun c among => of_decide_eq_true (List.all_eq_true.1 each c among)

theorem delimiter_not_namePart : ∀ c ∈ delimiters, isNamePart c = false :=
  forall_delimiters (by decide +kernel)

theorem delimiter_not_numeral :
    ∀ c ∈ delimiters, (c.isDigit || c = '.') = false ∧ c.isDigit = false ∧ c ≠ 'e' ∧ c ≠ 'E' :=
  forall_delimiters (by decide)

theorem delimiter_not_sign : ∀ c ∈ delimiters, c ≠ '+' ∧ c ≠ '-' :=
  forall_delimiters (by decide)

theorem delimiter_not_punctuation :
    ∀ c ∈ delimiters, c ≠ '?' ∧ c ≠ '.' ∧ c ≠ '=' ∧ c ≠ '>' ∧ c ≠ '&' ∧ c ≠ '|' :=
  forall_delimiters (by decide)

/-- A run of characters of a class ends where a text ends that goes on with none of them. -/
theorem takeWhile_append_of_stops {p : Char → Bool} {more : List Char}
    (stops : ∀ c ∈ more.head?, p c = false) (s : List Char) :
    (s ++ more).takeWhile p = s.takeWhile p ∧
      (s ++ more).dropWhile p = s.dropWhile p ++ more := by
  induction s with
  | nil =>
    cases more with
    | nil => exact ⟨rfl, rfl⟩
    | cons c more => simp [stops c rfl]
  | cons c s ih =>
    cases holds : p c with
    | true => simpa [holds] using ih
    | false => simp [holds]

theorem takeWhile_append_of_delimited {p : Char → Bool} (outside : ∀ c ∈ delimiters, p c = false)
    {more : List Char} (delimited : Delimited more) (s : List Char) :
    (s ++ more).takeWhile p = s.takeWhile p ∧
      (s ++ more).dropWhile p = s.dropWhile p ++ more :=
  takeWhile_append_of_stops (fun c first => outside c (delimited c first)) s

/-! ## Escapes, strings and templates -/

variable {more : List Char}

theorem lexEscape_append {s rest : List Char} {c : Char} {h}
    (read : lexEscape s = .ok ⟨c, rest, h⟩) (more : List Char) :
    ∃ h', lexEscape (s ++ more) = .ok ⟨c, rest ++ more, h'⟩ := by
  obtain ⟨e, rfl, escape⟩ := lexEscape_iff.1 ⟨_, read⟩
  exact lexEscape_iff.2 ⟨e, List.append_assoc e rest more, escape⟩

theorem lexString_append {start : Nat} {quote : Char} (isQuote : quote = '"' ∨ quote = '\'')
    {s rest text : List Char} {h} (read : lexString start quote s = .ok ⟨text, rest, h⟩)
    (start' : Nat) (more : List Char) :
    ∃ h', lexString start' quote (s ++ more) = .ok ⟨text, rest ++ more, h'⟩ := by
  obtain ⟨body, rfl, spells⟩ := (lexString_eq_ok_iff isQuote).1 ⟨_, read⟩
  exact (lexString_eq_ok_iff isQuote).2 ⟨body, List.append_assoc body _ more, spells⟩

/-- Quoted text inside a substitution is as long as before. -/
theorem take_append_sub {r r' : List Char} (shorter : r'.length < r.length) (more : List Char) :
    (r ++ more).take ((r ++ more).length - (r' ++ more).length) =
      r.take (r.length - r'.length) := by
  rw [List.length_append, List.length_append, List.take_append_of_le_length (by omega)]
  congr 1
  omega

theorem enough_append {size : Nat} {s rest : List Char} (enough : size + rest.length < s.length)
    (more : List Char) : size + (rest ++ more).length < (s ++ more).length := by
  rw [List.length_append, List.length_append]
  omega

mutual

theorem lexTemplate_append {start : Nat} {text s rest : List Char} {chunks : List Chunk}
    {h} (read : lexTemplate start text s = .ok ⟨chunks, rest, h⟩) (start' : Nat)
    (more : List Char) :
    ∃ h', lexTemplate start' text (s ++ more) = .ok ⟨chunks, rest ++ more, h'⟩ := by
  refine ⟨enough_append h more, ?_⟩
  unfold lexTemplate at read
  split at read
  · cases read
  · cases read
    show lexTemplate start' text ('\x60' :: (_ ++ more)) = _
    rw [lexTemplate]
  · rename_i r
    split at read
    · cases read
    · rename_i value r' shorter escape
      split at read
      · cases read
      · rename_i chunks' rest' enough inner
        cases read
        obtain ⟨_, escape⟩ := lexEscape_append escape more
        obtain ⟨_, inner⟩ := lexTemplate_append inner start' more
        show lexTemplate start' text ('\\' :: (r ++ more)) = _
        rw [lexTemplate, escape]
        dsimp only
        rw [inner]
  · rename_i r
    split at read
    · cases read
    · rename_i source r' shorter inside
      split at read
      · cases read
      · rename_i chunks' rest' enough inner
        cases read
        obtain ⟨_, inside⟩ := lexSubstitution_append inside ((r ++ more).length + 1) more
        obtain ⟨_, inner⟩ := lexTemplate_append inner start' more
        show lexTemplate start' text ('$' :: '\x7b' :: (r ++ more)) = _
        rw [lexTemplate, inside]
        dsimp only
        rw [inner]
  · rename_i c r notEnd notEscape notOpen
    split at read
    · cases read
    · rename_i chunks' rest' enough inner'
      cases read
      obtain ⟨_, inner⟩ := lexTemplate_append inner' start' more
      show lexTemplate start' text (_ :: (_ ++ more)) = _
      rw [lexTemplate, inner]
      · exact notEnd
      · exact notEscape
      · -- The template does not end here, so the brace would stand in the text itself.
        intro r' mark opens
        cases r with
        | nil =>
          rw [lexTemplate] at inner'
          cases inner'
        | cons d r =>
          rw [List.cons_append, List.cons.injEq] at opens
          exact notOpen r mark (by rw [opens.1])
termination_by s.length
decreasing_by all_goals (subst_vars; simp only [List.length_cons]; omega)

theorem lexSubstitution_append {start depth : Nat} {s source rest : List Char}
    {h} (read : lexSubstitution start depth s = .ok ⟨source, rest, h⟩) (start' : Nat)
    (more : List Char) :
    ∃ h', lexSubstitution start' depth (s ++ more) = .ok ⟨source, rest ++ more, h'⟩ := by
  refine ⟨enough_append h more, ?_⟩
  unfold lexSubstitution at read
  split at read
  · cases read
  · rename_i c r
    show lexSubstitution start' depth (c :: (r ++ more)) = _
    unfold lexSubstitution
    split at read
    · rename_i closes
      rw [if_pos closes]
      split at read
      · cases read
        rfl
      · rename_i depth
        split at read
        · cases read
        · rename_i source' rest' enough inner
          cases read
          obtain ⟨_, inner⟩ := lexSubstitution_append inner start' more
          rw [inner]
    · rename_i notClose
      rw [if_neg notClose]
      split at read
      · rename_i opens
        rw [if_pos opens]
        split at read
        · cases read
        · rename_i source' rest' enough inner
          cases read
          obtain ⟨_, inner⟩ := lexSubstitution_append inner start' more
          rw [inner]
      · rename_i notOpen
        rw [if_neg notOpen]
        split at read
        · rename_i isQuote
          rw [if_pos isQuote]
          split at read
          · cases read
          · rename_i text r' shorter quoted
            split at read
            · cases read
            · rename_i source' rest' enough inner
              cases read
              obtain ⟨_, quoted⟩ :=
                lexString_append isQuote quoted ((r ++ more).length + 1) more
              obtain ⟨_, inner⟩ := lexSubstitution_append inner start' more
              rw [quoted]
              dsimp only
              rw [inner]
              simp only [take_append_sub shorter more]
        · rename_i notQuote
          rw [if_neg notQuote]
          split at read
          · rename_i isTemplate
            rw [if_pos isTemplate]
            split at read
            · cases read
            · rename_i chunks r' light template
              split at read
              · cases read
              · rename_i source' rest' enough inner
                cases read
                obtain ⟨_, template⟩ :=
                  lexTemplate_append template ((r ++ more).length + 1) more
                obtain ⟨_, inner⟩ := lexSubstitution_append inner start' more
                have shorter : r'.length < r.length := by omega
                rw [template]
                dsimp only
                rw [inner]
                simp only [take_append_sub shorter more]
          · rename_i notTemplate
            rw [if_neg notTemplate]
            split at read
            · cases read
            · rename_i source' rest' enough inner
              cases read
              obtain ⟨_, inner⟩ := lexSubstitution_append inner start' more
              rw [inner]
termination_by s.length
decreasing_by all_goals (subst_vars; simp only [List.length_cons]; omega)

end

/-! ## Punctuation, numbers and names -/

/-- What does not go on with a character does not do so either in front of a delimiter. -/
theorem not_cons_append {d : Char} {s : List Char} (h : ∀ r, s = d :: r → False)
    (other : ∀ c ∈ more.head?, c ≠ d) : ∀ r, s ++ more = d :: r → False := by
  intro r shape
  cases s with
  | nil =>
    rw [List.nil_append] at shape
    exact other d (by rw [shape]; rfl) rfl
  | cons c s =>
    rw [List.cons_append, List.cons.injEq] at shape
    exact h s (by rw [shape.1])

theorem punctuation?_append {s : List Char} {t : Token} {width : Nat} (delimited : Delimited more)
    (h : punctuation? s = some (t, width)) :
    punctuation? (s ++ more) = some (t, width) ∧ width ≤ s.length := by
  have notQuestion : ∀ c ∈ more.head?, c ≠ '?' := fun c first =>
    (delimiter_not_punctuation c (delimited c first)).1
  have notPoint : ∀ c ∈ more.head?, c ≠ '.' := fun c first =>
    (delimiter_not_punctuation c (delimited c first)).2.1
  have notEqual : ∀ c ∈ more.head?, c ≠ '=' := fun c first =>
    (delimiter_not_punctuation c (delimited c first)).2.2.1
  unfold punctuation? at h
  split at h
  case h_2 =>
    -- a question mark and a point, which the character after them tells apart
    rename_i d r
    refine ⟨?_, ?_⟩
    · show punctuation? ('?' :: '.' :: d :: (r ++ more)) = _
      rw [punctuation?, h]
    · split at h <;> cases h <;> simp
  all_goals cases h
  case h_3.refl =>
    -- the same at the end, where a delimiter may follow
    refine ⟨?_, by simp⟩
    cases more with
    | nil => rfl
    | cons c more =>
      have digit := (delimiter_not_numeral c (delimited c rfl)).2.1
      show punctuation? ('?' :: '.' :: c :: more) = _
      rw [punctuation?, digit, if_neg Bool.false_ne_true]
  case h_4.refl =>
    -- a question mark alone
    rename_i r one two three
    have single : ∀ x, r = '.' :: x → False := by
      intro x shape
      cases x with
      | nil => exact three shape
      | cons d x => exact two d x shape
    have single := not_cons_append single notPoint
    refine ⟨?_, by simp⟩
    show punctuation? ('?' :: (r ++ more)) = _
    rw [punctuation?]
    · exact not_cons_append one notQuestion
    · exact fun d x => single (d :: x)
    · exact single []
  case h_7.refl | h_9.refl | h_12.refl | h_14.refl =>
    -- these signs are longer only with an equals sign after them
    rename_i r one
    refine ⟨?_, by simp⟩
    simp only [List.cons_append]
    rw [punctuation?]
    exact not_cons_append one notEqual
  case h_10.refl =>
    -- an exclamation mark alone
    rename_i r _ one
    have single := not_cons_append one notEqual
    refine ⟨?_, by simp⟩
    show punctuation? ('!' :: (r ++ more)) = _
    rw [punctuation?]
    · exact fun x => single ('=' :: x)
    · exact single
  all_goals exact ⟨rfl, by simp⟩

theorem punctuation?_of_nameStart {c : Char} (start : isNameStart c = true) (r : List Char) :
    punctuation? (c :: r) = none := by
  unfold punctuation?
  split
  all_goals first | rfl | (rename_i shape; cases shape; exact absurd start (by decide +kernel))

theorem exponentPart_append (delimited : Delimited more) (s : List Char) :
    exponentPart (s ++ more) = exponentPart s := by
  have notDigit : ∀ c ∈ delimiters, c.isDigit = false := fun c member =>
    (delimiter_not_numeral c member).2.1
  have digits (r : List Char) := (takeWhile_append_of_delimited notDigit delimited r).1
  have noDigits : more.takeWhile Char.isDigit = [] := digits []
  cases s with
  | nil =>
    cases more with
    | nil => rfl
    | cons c more =>
      obtain ⟨-, -, small, large⟩ := delimiter_not_numeral c (delimited c rfl)
      simp [exponentPart, small, large]
  | cons mark r =>
    show exponentPart (mark :: (r ++ more)) = _
    unfold exponentPart
    dsimp only
    split
    · cases r with
      | nil =>
        cases more with
        | nil => rfl
        | cons c more =>
          obtain ⟨plus, minus⟩ := delimiter_not_sign c (delimited c rfl)
          simp [plus, minus, noDigits]
      | cons d r =>
        by_cases plus : d = '+'
        · subst plus
          simp [digits]
        · by_cases minus : d = '-'
          · subst minus
            simp [digits]
          · have digits := digits (d :: r)
            rw [List.cons_append] at digits
            simp [plus, minus, digits]
    · rfl

theorem numeral_append (delimited : Delimited more) (s : List Char) :
    numeral (s ++ more) = numeral s := by
  have outside : ∀ c ∈ delimiters, (c.isDigit || c = '.') = false := fun c member =>
    (delimiter_not_numeral c member).1
  have body := (takeWhile_append_of_delimited outside delimited s).1
  have inside : (s.takeWhile fun c => c.isDigit || c = '.').length ≤ s.length :=
    (List.takeWhile_sublist _).length_le
  unfold numeral
  dsimp only
  rw [body, List.drop_append_of_le_length inside, exponentPart_append delimited]

/-- The exponent part stands at the front of the text. -/
theorem exponentPart_prefix (s : List Char) : ∃ rest, exponentPart s ++ rest = s := by
  have front : ∀ (mark : Char) (sign r : List Char), ∃ rest,
      (if (r.takeWhile Char.isDigit).isEmpty then []
        else mark :: sign ++ r.takeWhile Char.isDigit) ++ rest = mark :: (sign ++ r) := by
    intro mark sign r
    split
    · exact ⟨_, rfl⟩
    · refine ⟨r.dropWhile Char.isDigit, ?_⟩
      rw [List.cons_append, List.cons_append, List.append_assoc, List.takeWhile_append_dropWhile]
  cases s with
  | nil => exact ⟨[], rfl⟩
  | cons mark r =>
    unfold exponentPart
    dsimp only
    split
    · split
      · exact front mark ['+'] _
      · exact front mark ['-'] _
      · exact front mark [] r
    · exact ⟨mark :: r, rfl⟩

theorem length_numeral_le (s : List Char) : (numeral s).length ≤ s.length := by
  obtain ⟨rest, shape⟩ :=
    exponentPart_prefix (s.drop (s.takeWhile fun c => c.isDigit || c = '.').length)
  have lengths := congrArg List.length shape
  have inside : (s.takeWhile fun c => c.isDigit || c = '.').length ≤ s.length :=
    (List.takeWhile_sublist _).length_le
  rw [List.length_append, List.length_drop] at lengths
  unfold numeral
  dsimp only
  rw [List.length_append]
  omega

theorem startsNumber_append (delimited : Delimited more) (c : Char) (r : List Char) :
    startsNumber (c :: (r ++ more)) = startsNumber (c :: r) := by
  cases r with
  | cons d r =>
    by_cases point : c = '.'
    · subst point
      rfl
    · simp [startsNumber, point]
  | nil =>
    cases more with
    | nil => rfl
    | cons d more =>
      have digit := (delimiter_not_numeral d (delimited d rfl)).2.1
      by_cases point : c = '.'
      · subst point
        simp [startsNumber, digit]
      · simp [startsNumber, point]

/-! ## The token at the front -/

/-- A character that opens no string and no template. -/
def IsPlain (c : Char) : Prop := c ≠ '"' ∧ c ≠ '\'' ∧ c ≠ '\x60'

instance (c : Char) : Decidable (IsPlain c) :=
  inferInstanceAs (Decidable (c ≠ '"' ∧ c ≠ '\'' ∧ c ≠ '\x60'))

/-- At the front of `c :: r` stands a token, and the rest follows it. -/
inductive ReadsToken (c : Char) (r : List Char) : Token → List Char → Prop
  | string {text rest : List Char} {h} (quote : c = '"' ∨ c = '\'')
    (read : lexString (r.length + 1) c r = .ok ⟨text, rest, h⟩) :
    ReadsToken c r (.string text) rest
  | template {chunks : List Chunk} {rest : List Char} {h} (quote : c = '\x60')
    (read : lexTemplate (r.length + 1) [] r = .ok ⟨chunks, rest, h⟩) :
    ReadsToken c r (.template chunks) rest
  | number {n : Binary64} (plain : IsPlain c) (starts : startsNumber (c :: r) = true)
    (spells : Binary64.ofText? (numeral (c :: r)) = some n) :
    ReadsToken c r (.number n) (r.drop ((numeral (c :: r)).length - 1))
  | sign {t : Token} {width : Nat} (plain : IsPlain c) (notNumber : startsNumber (c :: r) = false)
    (found : punctuation? (c :: r) = some (t, width)) : ReadsToken c r t (r.drop (width - 1))
  | name (plain : IsPlain c) (notNumber : startsNumber (c :: r) = false)
    (start : isNameStart c = true) :
    ReadsToken c r (.ident (String.ofList (c :: r.takeWhile isNamePart))) (r.dropWhile isNamePart)

/-- **The lexer reads the token at the front**, and nothing else. -/
theorem lexToken_eq_ok_iff {c : Char} {r rest : List Char} {t : Token} :
    (∃ h, lexToken c r = .ok ⟨t, rest, h⟩) ↔ ReadsToken c r t rest := by
  unfold lexToken
  constructor
  · rintro ⟨_, read⟩
    split at read
    · rename_i quote
      split at read
      · cases read
      · rename_i found
        cases read
        exact .string quote found
    · rename_i notQuote
      split at read
      · rename_i quote
        split at read
        · cases read
        · rename_i found
          cases read
          exact .template quote found
      · rename_i notTemplate
        have plain : IsPlain c := ⟨fun same => notQuote (Or.inl same),
          fun same => notQuote (Or.inr same), notTemplate⟩
        split at read
        · rename_i starts
          dsimp only at read
          split at read
          · rename_i spells
            cases read
            exact .number plain starts spells
          · cases read
        · rename_i notNumber
          have notNumber := Bool.eq_false_iff.2 notNumber
          split at read
          · rename_i found
            cases read
            exact .sign plain notNumber found
          · split at read
            · rename_i start
              cases read
              exact .name plain notNumber start
            · cases read
  · intro reads
    cases reads with
    | string quote read =>
      rw [if_pos quote, read]
      exact ⟨_, rfl⟩
    | template quote read =>
      have notQuote : ¬(c = '"' ∨ c = '\'') := by
        rw [quote]
        decide
      rw [if_neg notQuote, if_pos quote, read]
      exact ⟨_, rfl⟩
    | number plain starts spells =>
      rw [if_neg (not_or.2 ⟨plain.1, plain.2.1⟩), if_neg plain.2.2, if_pos starts]
      dsimp only
      rw [spells]
      exact ⟨_, rfl⟩
    | sign plain notNumber found =>
      rw [if_neg (not_or.2 ⟨plain.1, plain.2.1⟩), if_neg plain.2.2, notNumber,
        if_neg Bool.false_ne_true]
      split
      · rename_i found'
        cases found.symm.trans found'
        exact ⟨weight_punctuation found, rfl⟩
      · rename_i none
        cases found.symm.trans none
    | name plain notNumber start =>
      rw [if_neg (not_or.2 ⟨plain.1, plain.2.1⟩), if_neg plain.2.2, notNumber,
        if_neg Bool.false_ne_true]
      split
      · rename_i found
        cases (punctuation?_of_nameStart start r).symm.trans found
      · rw [if_pos start]
        exact ⟨weight_ident c r, rfl⟩

/-- **A token is read as it is in front of a delimiter.** -/
theorem ReadsToken.append {c : Char} {r rest : List Char} {t : Token}
    (reads : ReadsToken c r t rest) (delimited : Delimited more) :
    ReadsToken c (r ++ more) t (rest ++ more) := by
  cases reads with
  | string quote read =>
    obtain ⟨_, read⟩ := lexString_append quote read ((r ++ more).length + 1) more
    exact .string quote read
  | template quote read =>
    obtain ⟨_, read⟩ := lexTemplate_append read ((r ++ more).length + 1) more
    exact .template quote read
  | number plain starts spells =>
    have text : numeral (c :: (r ++ more)) = numeral (c :: r) := numeral_append delimited (c :: r)
    have inside := length_numeral_le (c :: r)
    rw [List.length_cons] at inside
    have within : (numeral (c :: r)).length - 1 ≤ r.length := by omega
    rw [← startsNumber_append delimited] at starts
    rw [← text] at spells
    have reads := ReadsToken.number plain starts spells
    rwa [text, List.drop_append_of_le_length within] at reads
  | sign plain notNumber found =>
    rename_i width
    obtain ⟨found, inside⟩ := punctuation?_append delimited found
    rw [List.length_cons] at inside
    have within : width - 1 ≤ r.length := by omega
    rw [← startsNumber_append delimited] at notNumber
    have reads := ReadsToken.sign plain notNumber found
    rwa [List.drop_append_of_le_length within] at reads
  | name plain notNumber start =>
    obtain ⟨taken, dropped⟩ := takeWhile_append_of_delimited delimiter_not_namePart delimited r
    rw [← startsNumber_append delimited] at notNumber
    have reads := ReadsToken.name plain notNumber start
    rwa [taken, dropped] at reads

/-! ## Whole texts -/

theorem tokens?_eq (s : List Char) : tokens? s = (lexAll s).toOption.map Subtype.val := by
  unfold tokens? tokenize
  cases lexAll s <;> rfl

theorem tokens?_nil : tokens? [] = some [] := by
  rw [tokens?_eq, lexAll]
  rfl

theorem tokens?_gap {c : Char} (gap : isGap c = true) (r : List Char) :
    tokens? (c :: r) = tokens? r := by
  rw [tokens?_eq, tokens?_eq, lexAll, if_pos gap]
  cases lexAll r <;> rfl

theorem tokens?_token {c : Char} {r rest : List Char} {t : Token}
    (solid : isGap c = false) (reads : ReadsToken c r t rest) :
    tokens? (c :: r) = (tokens? rest).map (t :: ·) := by
  obtain ⟨_, read⟩ := lexToken_eq_ok_iff.2 reads
  rw [tokens?_eq, tokens?_eq, lexAll, solid, if_neg Bool.false_ne_true, read]
  dsimp only
  cases lexAll rest <;> rfl

/-- In front of a delimiter the text is cut into these tokens, and what follows is cut as if it
stood alone. -/
def Lexes (s : List Char) (ts : List Token) : Prop :=
  ∀ more, Delimited more → tokens? (s ++ more) = (tokens? more).map (ts ++ ·)

/-- **Tokens do not change in front of a delimiter.** -/
theorem lexes_of_tokens? {s : List Char} {ts : List Token} (h : tokens? s = some ts) :
    Lexes s ts := by
  intro more delimited
  obtain ⟨light, cut⟩ := tokens?_eq_some_iff.1 h
  clear h
  fun_induction lexAll s generalizing ts with
  | case1 =>
    cases cut
    simp
  | case2 => cases cut
  | case3 c r gap us light' inner ih =>
    cases cut
    rw [List.cons_append, tokens?_gap gap]
    exact ih _ inner
  | case4 => cases cut
  | case5 => cases cut
  | case6 c r solid t rest enough read _ us light' inner ih =>
    cases cut
    have reads := (lexToken_eq_ok_iff.1 ⟨_, read⟩).append delimited
    rw [List.cons_append, tokens?_token (by simpa using solid) reads, ih _ inner, Option.map_map]
    rfl

theorem Lexes.tokens? {s : List Char} {ts : List Token} (h : Lexes s ts) :
    tokens? s = some ts := by
  have alone := h [] delimited_nil
  rwa [List.append_nil, tokens?_nil, Option.map_some, List.append_nil] at alone

/-- The text is cut into these tokens whatever follows it, and what follows as if it stood alone. -/
def Cuts (s : List Char) (ts : List Token) : Prop :=
  ∀ more, tokens? (s ++ more) = (Script.tokens? more).map (ts ++ ·)

/-- The text starts with a delimiter, and is cut into these tokens whatever follows it. -/
structure Stands (s : List Char) (ts : List Token) : Prop where
  opens : ∃ c ∈ delimiters, ∃ r, s = c :: r
  cuts : Cuts s ts

theorem Stands.delimited {s : List Char} {ts : List Token} (stands : Stands s ts)
    (more : List Char) : Delimited (s ++ more) := by
  obtain ⟨c, delimiter, r, rfl⟩ := stands.opens
  exact delimited_cons delimiter (r ++ more)

theorem cuts_nil : Cuts [] [] := by
  intro more
  simp

theorem Cuts.lexes {s : List Char} {ts : List Token} (cuts : Cuts s ts) : Lexes s ts :=
  fun more _ => cuts more

theorem Cuts.append {s s' : List Char} {ts ts' : List Token} (cuts : Cuts s ts)
    (cuts' : Cuts s' ts') : Cuts (s ++ s') (ts ++ ts') := by
  intro more
  rw [List.append_assoc, cuts, cuts', Option.map_map]
  simp [Function.comp_def]

theorem Lexes.append_stands {s s' : List Char} {ts ts' : List Token} (lexes : Lexes s ts)
    (stands : Stands s' ts') : Cuts (s ++ s') (ts ++ ts') := by
  intro more
  rw [List.append_assoc, lexes _ (stands.delimited more), stands.cuts, Option.map_map]
  simp [Function.comp_def]

theorem Cuts.append_lexes {s s' : List Char} {ts ts' : List Token} (cuts : Cuts s ts)
    (lexes : Lexes s' ts') : Lexes (s ++ s') (ts ++ ts') := by
  intro more delimited
  rw [List.append_assoc, cuts, lexes more delimited, Option.map_map]
  simp [Function.comp_def]

theorem Cuts.stands {c : Char} (delimiter : c ∈ delimiters) {r : List Char} {ts : List Token}
    (cuts : Cuts (c :: r) ts) : Stands (c :: r) ts :=
  ⟨⟨c, delimiter, r, rfl⟩, cuts⟩

/-- A sign of one character, which no sign is longer than. -/
theorem cuts_punctuation {c : Char} {t : Token} (solid : isGap c = false) (plain : IsPlain c)
    (notNumber : ∀ r, startsNumber (c :: r) = false)
    (single : ∀ r, punctuation? (c :: r) = some (t, 1)) : Cuts [c] [t] := by
  intro more
  have reads : ReadsToken c more t more := .sign plain (notNumber more) (single more)
  rw [List.singleton_append, tokens?_token solid reads]
  rfl

end Formulary.Script
