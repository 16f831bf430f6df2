import Formulary.Script.Lexer

/-!
# String literals

The grammar of quoted text: plain characters, and escapes by a letter or by the number of a
character in four hexadecimal digits. `Quotes` says where a literal ends and what it stands for,
without reading from left to right; what may be the number of an escape is a parameter of it.

* `lexString_iff`: the lexer reads exactly the literals whose numbers are four digits or a plus sign
  and three. They are those of the grammar where no number with a sign comes up. A fault is placed
  inside the literal.
* `signed_number_read`: a literal that the grammar does not have and the lexer reads.
-/

namespace Formulary.Script

/-! ## Hexadecimal numbers -/

/-- A hexadecimal digit, small or capital, and its value. -/
def IsHexDigit (c : Char) (n : Nat) : Prop :=
  n < 16 ∧ (c = Nat.digitChar n ∨ c = (Nat.digitChar n).toUpper)

instance (c : Char) (n : Nat) : Decidable (IsHexDigit c n) := inferInstanceAs (Decidable (_ ∧ _))

/-- Four hexadecimal digits and the number that they are. -/
inductive IsHexUnit : List Char → Nat → Prop
  | intro {a b c d : Char} {i j k l : Nat} : IsHexDigit a i → IsHexDigit b j → IsHexDigit c k →
      IsHexDigit d l → IsHexUnit [a, b, c, d] (((i * 16 + j) * 16 + k) * 16 + l)

/-- A plus sign in place of the first of four digits, which counts as zero. -/
def IsSignedUnit (digits : List Char) (n : Nat) : Prop :=
  ∃ more, digits = '+' :: more ∧ IsHexUnit ('0' :: more) n

/-- The digits of a range of characters, checked one by one. -/
theorem isHexDigit_of_range (low high : Char) (m first : Nat) {c : Char}
    (span : high.toNat + 1 = low.toNat + m)
    (digits : ∀ k : Fin m, IsHexDigit (Char.ofNat (low.toNat + k)) (k + first))
    (above : low ≤ c) (below : c ≤ high) : IsHexDigit c (c.toNat - low.toNat + first) := by
  have least : low.toNat ≤ c.toNat := above
  have greatest : c.toNat ≤ high.toNat := below
  have digit := digits ⟨c.toNat - low.toNat, by omega⟩
  rwa [Nat.add_sub_cancel' least, Char.ofNat_toNat] at digit

theorem hexValue?_eq_some_iff {c : Char} {n : Nat} :
    Json.hexValue? c = some n ↔ IsHexDigit c n := by
  constructor
  · intro value
    unfold Json.hexValue? at value
    split at value
    · rename_i digit
      obtain ⟨above, below⟩ := Bool.and_eq_true_iff.1 digit
      cases value
      exact isHexDigit_of_range '0' '9' 10 0 rfl (by decide) (of_decide_eq_true above)
        (of_decide_eq_true below)
    · split at value
      · rename_i range
        cases value
        exact isHexDigit_of_range 'a' 'f' 6 10 rfl (by decide) range.1 range.2
      · split at value
        · rename_i range
          cases value
          exact isHexDigit_of_range 'A' 'F' 6 10 rfl (by decide) range.1 range.2
        · cases value
  · rintro ⟨small, shape⟩
    have digits : ∀ n : Fin 16, Json.hexValue? (Nat.digitChar n) = some n.val ∧
      Json.hexValue? (Nat.digitChar n).toUpper = some n.val := by decide
    obtain ⟨lower, upper⟩ := digits ⟨n, small⟩
    rcases shape with rfl | rfl
    · exact lower
    · exact upper

theorem hexUnit?_eq_some_iff {a b c d : Char} {n : Nat} :
    Json.hexUnit? a b c d = some n ↔ IsHexUnit [a, b, c, d] n := by
  unfold Json.hexUnit?
  simp only [Option.bind_eq_bind, Option.bind_eq_some_iff, Option.pure_def, Option.some.injEq,
    hexValue?_eq_some_iff]
  constructor
  · rintro ⟨i, ha, j, hb, k, hc, l, hd, rfl⟩
    exact .intro ha hb hc hd
  · rintro ⟨ha, hb, hc, hd⟩
    exact ⟨_, ha, _, hb, _, hc, _, hd, rfl⟩

theorem plus_not_hexDigit {n : Nat} : ¬ IsHexDigit '+' n := by
  rw [← hexValue?_eq_some_iff]
  simp [Json.hexValue?]

theorem unicodeUnit?_eq_some_iff {a b c d : Char} {n : Nat} :
    unicodeUnit? a b c d = some n ↔ IsHexUnit [a, b, c, d] n ∨ IsSignedUnit [a, b, c, d] n := by
  unfold unicodeUnit?
  split
  · rename_i plus
    subst plus
    rw [hexUnit?_eq_some_iff]
    constructor
    · intro hex
      exact Or.inr ⟨_, rfl, hex⟩
    · rintro (hex | ⟨more, shape, hex⟩)
      · cases hex with
        | intro ha => exact absurd ha plus_not_hexDigit
      · cases shape
        exact hex
  · rename_i notPlus
    rw [hexUnit?_eq_some_iff]
    constructor
    · exact Or.inl
    · rintro (hex | ⟨more, shape, hex⟩)
      · exact hex
      · cases shape
        exact absurd rfl notPlus

theorem scalar?_eq_some_iff {code : Nat} {c : Char} :
    scalar? code = some c ↔ code.isValidChar ∧ c = Char.ofNat code := by
  unfold scalar? Char.ofNat
  by_cases valid : code.isValidChar
  · rw [dif_pos valid, dif_pos valid, Option.some.injEq, eq_comm, and_iff_right valid]
  · rw [dif_neg valid]
    constructor
    · intro none
      cases none
    · rintro ⟨valid', -⟩
      exact absurd valid' valid

/-! ## Literals -/

/-- What stands behind a backslash, and the character that it stands for. `unit` is what may follow
the letter of an escape by a number. -/
inductive Escape (unit : List Char → Nat → Prop) : List Char → Char → Prop
  | letter {c : Char} (other : c ≠ 'u') : Escape unit [c] (escapeLetter c)
  | number {digits : List Char} {code : Nat} (spelt : unit digits code) (valid : code.isValidChar) :
      Escape unit ('u' :: digits) (Char.ofNat code)

/-- What stands between two quotes, and the text that it stands for: plain characters, neither the
quote nor a backslash, and escapes. -/
inductive Spells (unit : List Char → Nat → Prop) (quote : Char) : List Char → List Char → Prop
  | nil : Spells unit quote [] []
  | plain {c : Char} {s text : List Char} (notQuote : c ≠ quote) (notBackslash : c ≠ '\\') :
      Spells unit quote s text → Spells unit quote (c :: s) (c :: text)
  | escape {e : List Char} {c : Char} {s text : List Char} (first : Escape unit e c) :
      Spells unit quote s text → Spells unit quote ('\\' :: (e ++ s)) (c :: text)

/-- The number of an escape as the lexer takes it: four digits, or a plus sign and three. -/
def IsLaxUnit (digits : List Char) (n : Nat) : Prop := IsHexUnit digits n ∨ IsSignedUnit digits n

/-- Behind an opening quote, `s` goes on with the rest of a literal that stands for `text`, its
closing quote included, and then with `rest`. -/
def Quotes (unit : List Char → Nat → Prop) (quote : Char) (s text rest : List Char) : Prop :=
  ∃ body, s = body ++ quote :: rest ∧ Spells unit quote body text

theorem IsLaxUnit.unicodeUnit? {digits : List Char} {n : Nat} (spelt : IsLaxUnit digits n) :
    ∃ a b c d, digits = [a, b, c, d] ∧ unicodeUnit? a b c d = some n := by
  rcases spelt with hex | ⟨more, rfl, hex⟩
  · cases hex with
    | intro ha hb hc hd =>
      exact ⟨_, _, _, _, rfl, unicodeUnit?_eq_some_iff.2 (Or.inl (.intro ha hb hc hd))⟩
  · cases hex with
    | intro ha hb hc hd =>
      exact ⟨_, _, _, _, rfl,
        unicodeUnit?_eq_some_iff.2 (Or.inr ⟨_, rfl, .intro ha hb hc hd⟩)⟩

theorem lexEscape_iff {s rest : List Char} {c : Char} :
    (∃ h, lexEscape s = .ok ⟨c, rest, h⟩) ↔ ∃ e, s = e ++ rest ∧ Escape IsLaxUnit e c := by
  constructor
  · rintro ⟨h, read⟩
    unfold lexEscape at read
    split at read
    · cases read
    · split at read
      · rename_i found
        cases read
        obtain ⟨code, unit, scalar⟩ := Option.bind_eq_some_iff.1 found
        obtain ⟨valid, rfl⟩ := scalar?_eq_some_iff.1 scalar
        exact ⟨_, rfl, .number (unicodeUnit?_eq_some_iff.1 unit) valid⟩
      · cases read
    · cases read
    · rename_i other
      cases read
      exact ⟨_, rfl, .letter other⟩
  · rintro ⟨e, rfl, escape⟩
    cases escape with
    | @letter c other =>
      refine ⟨by simp, ?_⟩
      show lexEscape (c :: rest) = _
      rw [lexEscape] <;> simp [other]
    | number spelt valid =>
      obtain ⟨a, b, c, d, rfl, unit⟩ := spelt.unicodeUnit?
      have scalar := scalar?_eq_some_iff.2 ⟨valid, rfl⟩
      refine ⟨by simp; omega, ?_⟩
      show lexEscape ('u' :: a :: b :: c :: d :: rest) = _
      unfold lexEscape
      simp only [unit, Option.bind_some, scalar]

/-- The characters left at a fault in an escape are at least its backslash. -/
theorem remaining_of_lexEscape {s : List Char} {fault : Fault}
    (failed : lexEscape s = .error fault) :
    0 < fault.remaining ∧ fault.remaining ≤ s.length + 1 := by
  unfold lexEscape at failed
  split at failed
  · cases failed
    simp
  · split at failed
    · cases failed
    · cases failed
      simp
  · cases failed
    simp
  · cases failed

variable {quote : Char}

theorem quotes_of_lexString (start : Nat) (s text rest : List Char) {h}
    (read : lexString start quote s = .ok ⟨text, rest, h⟩) :
    Quotes IsLaxUnit quote s text rest := by
  fun_induction lexString start quote s generalizing text rest with
  | case1 => cases read
  | case2 r =>
    cases read
    exact ⟨[], rfl, .nil⟩
  | case3 => cases read
  | case4 => cases read
  | case5 r c r' h₁ escape text' rest' h₂ inner notQuote ih =>
    cases read
    obtain ⟨e, rfl, first⟩ := lexEscape_iff.1 ⟨_, escape⟩
    obtain ⟨body, rfl, later⟩ := ih _ _ inner
    exact ⟨'\\' :: (e ++ body), by simp, .escape first later⟩
  | case6 => cases read
  | case7 c r notQuote notEscape text' rest' h₂ inner ih =>
    cases read
    obtain ⟨body, rfl, later⟩ := ih _ _ inner
    exact ⟨c :: body, rfl, .plain notQuote notEscape later⟩

theorem lexString_of_spells (start : Nat) (notBackslash : quote ≠ '\\') {body text : List Char}
    (spells : Spells IsLaxUnit quote body text) (rest s : List Char)
    (shape : s = body ++ quote :: rest) :
    ∃ h, lexString start quote s = .ok ⟨text, rest, h⟩ := by
  induction spells generalizing s with
  | nil =>
    subst shape
    refine ⟨by simp, ?_⟩
    show lexString start quote (quote :: rest) = _
    rw [lexString, if_pos rfl]
  | plain notQuote notEscape _ ih =>
    obtain ⟨_, later⟩ := ih _ rfl
    rw [List.cons_append] at shape
    subst shape
    refine ⟨by simp; omega, ?_⟩
    rw [lexString, if_neg notQuote, if_neg notEscape, later]
  | @escape e c body text first _ ih =>
    obtain ⟨_, later⟩ := ih _ rfl
    rw [List.cons_append, List.append_assoc] at shape
    obtain ⟨_, read⟩ := lexEscape_iff.2 ⟨e, rfl, first⟩
    subst shape
    refine ⟨by simp; omega, ?_⟩
    rw [lexString, if_neg notBackslash.symm, if_pos rfl, read]
    dsimp only
    rw [later]

theorem ne_backslash (isQuote : quote = '"' ∨ quote = '\'') : quote ≠ '\\' := by
  rcases isQuote with rfl | rfl <;> decide

/-- The lexer reads the literals whose numbers are four digits or a sign and three. -/
theorem lexString_eq_ok_iff (isQuote : quote = '"' ∨ quote = '\'') {start : Nat}
    {s text rest : List Char} :
    (∃ h, lexString start quote s = .ok ⟨text, rest, h⟩) ↔ Quotes IsLaxUnit quote s text rest := by
  constructor
  · intro read
    obtain ⟨_, read⟩ := read
    exact quotes_of_lexString start s text rest read
  · intro quotes
    obtain ⟨_, shape, spells⟩ := quotes
    exact lexString_of_spells start (ne_backslash isQuote) spells rest s shape

/-- A fault is placed at the opening quote or at a backslash behind it. -/
theorem remaining_of_lexString {start : Nat} {s : List Char} {fault : Fault}
    (failed : lexString start quote s = .error fault) :
    fault.remaining = start ∨ 0 < fault.remaining ∧ fault.remaining ≤ s.length := by
  fun_induction lexString start quote s with
  | case1 =>
    cases failed
    exact Or.inl rfl
  | case2 => cases failed
  | case3 r _ escape =>
    cases failed
    exact Or.inr (remaining_of_lexEscape ‹_›)
  | case4 r c r' shorter _ _ inner _ ih =>
    cases failed
    refine (ih inner).imp_right fun ⟨positive, within⟩ => ⟨positive, ?_⟩
    exact Nat.le_trans within (Nat.le_of_lt (length_lt_cons_of_lt '\\' shorter))
  | case5 => cases failed
  | case6 c r _ _ _ inner ih =>
    cases failed
    refine (ih inner).imp_right fun ⟨positive, within⟩ => ⟨positive, ?_⟩
    exact Nat.le_trans within (Nat.le_of_lt (length_lt_cons c r))
  | case7 => cases failed

/-! ## Numbers with a sign -/

/-- Plain characters and escapes by the grammar, and then an escape whose number has a sign. -/
def MeetsSign (quote : Char) (s : List Char) : Prop :=
  ∃ before text digits code after, s = before ++ '\\' :: 'u' :: (digits ++ after) ∧
    Spells IsHexUnit quote before text ∧ IsSignedUnit digits code

section

variable {unit : List Char → Nat → Prop} {e e' : List Char} {c c' : Char}
  {body text before rest r s : List Char}

theorem Escape.mono {unit' : List Char → Nat → Prop}
    (weaker : ∀ digits n, unit digits n → unit' digits n) (escape : Escape unit e c) :
    Escape unit' e c := by
  cases escape with
  | letter other => exact .letter other
  | number spelt valid => exact .number (weaker _ _ spelt) valid

theorem Spells.mono {unit' : List Char → Nat → Prop}
    (weaker : ∀ digits n, unit digits n → unit' digits n) (spells : Spells unit quote body text) :
    Spells unit' quote body text := by
  induction spells with
  | nil => exact .nil
  | plain notQuote notBackslash _ ih => exact .plain notQuote notBackslash ih
  | escape first _ ih => exact .escape (first.mono weaker) ih

/-- One escape is not the beginning of another. -/
theorem Escape.rest_eq (escape : Escape IsHexUnit e c) (escape' : Escape IsHexUnit e' c')
    (same : e ++ r = e' ++ s) : r = s := by
  have weaker : ∀ digits n, IsHexUnit digits n → IsLaxUnit digits n := fun _ _ => Or.inl
  obtain ⟨_, read⟩ := lexEscape_iff.2 ⟨e, same.symm, escape.mono weaker⟩
  obtain ⟨_, read'⟩ := lexEscape_iff.2 ⟨e', rfl, escape'.mono weaker⟩
  rw [read] at read'
  cases read'
  rfl

/-- What is spelt in front of a backslash is a first part of the literal. -/
theorem Spells.cut (notBackslash : quote ≠ '\\') (front : Spells IsHexUnit quote before s)
    (whole : Spells IsHexUnit quote body text)
    (same : body ++ quote :: rest = before ++ '\\' :: r) :
    ∃ body' text', body' ++ quote :: rest = '\\' :: r ∧ Spells IsHexUnit quote body' text' := by
  -- piece by piece: the first character tells the kind of a piece, and an escape its own end
  induction front generalizing body text with
  | nil => exact ⟨body, text, same, whole⟩
  | plain notQuote notEscape _ ih =>
    cases whole with
    | nil =>
      cases same
      exact absurd rfl notQuote
    | plain _ _ later =>
      injection same with _ same
      exact ih later same
    | escape _ _ =>
      injection same with head _
      exact absurd head.symm notEscape
  | escape first _ ih =>
    cases whole with
    | nil =>
      injection same with head _
      exact absurd head notBackslash
    | plain _ notEscape _ =>
      injection same with head _
      exact absurd head notEscape
    | escape first' later =>
      rw [List.cons_append, List.cons_append, List.cons.injEq, List.append_assoc,
        List.append_assoc] at same
      exact ih later (first'.rest_eq first same.2)

theorem not_meetsSign (notBackslash : quote ≠ '\\') (quotes : Quotes IsHexUnit quote s text rest) :
    ¬ MeetsSign quote s := by
  rintro ⟨before, _, _, _, after, shape, front, more, rfl, -⟩
  obtain ⟨body, rfl, whole⟩ := quotes
  obtain ⟨body', text', same, tail⟩ := front.cut notBackslash whole shape
  -- what is left of the literal begins with the escape, whose number would have to be four digits
  cases tail with
  | nil =>
    injection same with head _
    exact notBackslash head
  | plain _ notEscape _ =>
    injection same with head _
    exact notEscape head
  | escape first _ =>
    injection same with _ same
    cases first with
    | letter other =>
      injection same with head _
      exact other head
    | number spelt _ =>
      injection same with _ same
      cases spelt with
      | intro ha hb hc hd =>
        injection same with head _
        exact plus_not_hexDigit (head ▸ ha)

theorem MeetsSign.plain (notQuote : c ≠ quote) (notBackslash : c ≠ '\\')
    (meets : MeetsSign quote s) : MeetsSign quote (c :: s) := by
  obtain ⟨before, text, digits, code, after, rfl, front, sign⟩ := meets
  exact ⟨c :: before, c :: text, digits, code, after, rfl, .plain notQuote notBackslash front, sign⟩

theorem MeetsSign.escape (first : Escape IsHexUnit e c) (meets : MeetsSign quote s) :
    MeetsSign quote ('\\' :: (e ++ s)) := by
  obtain ⟨before, text, digits, code, after, rfl, front, sign⟩ := meets
  exact ⟨'\\' :: (e ++ before), c :: text, digits, code, after, by simp, .escape first front, sign⟩

theorem spells_or_meetsSign (spells : Spells IsLaxUnit quote body text) (rest : List Char) :
    Spells IsHexUnit quote body text ∨ MeetsSign quote (body ++ rest) := by
  induction spells with
  | nil => exact Or.inl .nil
  | plain notQuote notBackslash _ ih =>
    exact ih.imp (.plain notQuote notBackslash) (.plain notQuote notBackslash)
  | @escape e c body text first _ ih =>
    rw [List.cons_append, List.append_assoc]
    cases first with
    | letter other => exact ih.imp (.escape (.letter other)) (.escape (.letter other))
    | number spelt valid =>
      rcases spelt with hex | sign
      · exact ih.imp (.escape (.number hex valid)) (.escape (.number hex valid))
      · exact Or.inr ⟨[], [], _, _, body ++ rest, rfl, .nil, sign⟩

end

/-! ## The reader -/

/-- **String literals are read by their grammar, but a number may have a sign.** The lexer reads a
literal just where the grammar with lax numbers has one, and just where the grammar has one unless
it meets a number with a sign on the way. Wherever a literal stands in the input, a fault in it is
placed at one of its characters, before the end of the input. -/
theorem lexString_iff {quote : Char} (isQuote : quote = '"' ∨ quote = '\'') (s : List Char) :
    (∀ start text rest, (∃ h, lexString start quote s = .ok ⟨text, rest, h⟩) ↔
      Quotes IsLaxUnit quote s text rest) ∧
    (∀ start text rest, Quotes IsHexUnit quote s text rest ↔
      (∃ h, lexString start quote s = .ok ⟨text, rest, h⟩) ∧ ¬ MeetsSign quote s) ∧
    ∀ before fault, lexString (s.length + 1) quote s = .error fault →
      ∃ position, before.length ≤ position ∧ position < (before ++ quote :: s).length ∧
        position + fault.remaining = (before ++ quote :: s).length := by
  refine ⟨fun start text rest => lexString_eq_ok_iff isQuote, fun start text rest => ?_,
    fun before fault failed => ?_⟩
  · rw [lexString_eq_ok_iff isQuote]
    constructor
    · intro quotes
      obtain ⟨body, shape, spells⟩ := quotes
      exact ⟨⟨body, shape, spells.mono fun _ _ => Or.inl⟩,
        not_meetsSign (ne_backslash isQuote) ⟨body, shape, spells⟩⟩
    · rintro ⟨⟨body, rfl, spells⟩, unsigned⟩
      exact ⟨body, rfl, (spells_or_meetsSign spells _).resolve_right unsigned⟩
  · have bounds : 0 < fault.remaining ∧ fault.remaining ≤ s.length + 1 := by
      rcases remaining_of_lexString failed with opening | inside
      · omega
      · omega
    have total : (before ++ quote :: s).length = before.length + (s.length + 1) := by
      rw [List.length_append, List.length_cons]
    exact ⟨before.length + (s.length + 1 - fault.remaining), by omega, by omega, by omega⟩

/-- A letter by its number and a line end by its letter; `!` is left. -/
theorem lexString_iff_letter :
    ('"' = '"' ∨ '"' = '\'') ∧
      Quotes IsHexUnit '"' ['\\', 'u', '0', '0', '4', '1', '\\', 'n', '"', '!'] ['A', '\n'] ['!'] ∧
      ∃ h, lexString 11 '"' ['\\', 'u', '0', '0', '4', '1', '\\', 'n', '"', '!'] =
        .ok ⟨['A', '\n'], ['!'], h⟩ := by
  have zero : IsHexDigit '0' 0 := by decide
  have one : IsHexDigit '1' 1 := by decide
  have four : IsHexDigit '4' 4 := by decide
  have letter : Escape IsHexUnit ['u', '0', '0', '4', '1'] 'A' :=
    .number (.intro zero zero four one) (by decide)
  have lineEnd : Escape IsHexUnit ['n'] '\n' := .letter (by decide)
  have quotes : Quotes IsHexUnit '"' ['\\', 'u', '0', '0', '4', '1', '\\', 'n', '"', '!']
      ['A', '\n'] ['!'] := ⟨_, rfl, .escape letter (.escape lineEnd .nil)⟩
  exact ⟨Or.inl rfl, quotes, (((lexString_iff (Or.inl rfl) _).2.1 11 _ _).1 quotes).1⟩

/-- `\u+041` is no escape by the grammar, and the letter `A` is read for it. -/
theorem signed_number_read :
    (∃ h, lexString 8 '"' ['\\', 'u', '+', '0', '4', '1', '"'] = .ok ⟨['A'], [], h⟩) ∧
      ¬ ∃ text rest, Quotes IsHexUnit '"' ['\\', 'u', '+', '0', '4', '1', '"'] text rest := by
  have zero : IsHexDigit '0' 0 := by decide
  have one : IsHexDigit '1' 1 := by decide
  have four : IsHexDigit '4' 4 := by decide
  have sign : IsSignedUnit ['+', '0', '4', '1'] 65 := ⟨_, rfl, .intro zero zero four one⟩
  have letter : Escape IsLaxUnit ['u', '+', '0', '4', '1'] 'A' := .number (Or.inr sign) (by decide)
  have meets : MeetsSign '"' ['\\', 'u', '+', '0', '4', '1', '"'] :=
    ⟨[], [], _, _, ['"'], rfl, .nil, sign⟩
  constructor
  · exact lexString_of_spells 8 (by decide) (.escape letter .nil) [] _ rfl
  · rintro ⟨text, rest, quotes⟩
    exact not_meetsSign (by decide) quotes meets

end Formulary.Script
