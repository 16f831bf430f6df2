import Formulary.Proofs.Numeral
import Formulary.Proofs.Reading
import Formulary.Proofs.Splice

/-!
# JSON text as an expression

The compact text of a JSON value is an expression: `valueTokens` are its tokens, and `valueTree` is
what the parser builds from them.

* `lexes_value`: the text is cut into these tokens, in front of whatever may follow a value.
* `reads_value`: the tokens are read as this tree there.
* `reads_compound`: what stands in brackets or braces is so read whatever follows it.
-/

namespace Formulary.Script

open Decimal Json

/-! ## The tokens and the tree -/

/-- The tokens of the text of a number. -/
def numberTokens : List Char → List Token
  | '-' :: u => [.minus, .number ((Binary64.ofText? u).getD .nan)]
  | u => [.number ((Binary64.ofText? u).getD .nan)]

/-- The tree of the text of a number. -/
def numberTree : List Char → Expr
  | '-' :: u => .unary .negate (.literal (.ofNumber ((Binary64.ofText? u).getD .nan)))
  | u => .literal (.ofNumber ((Binary64.ofText? u).getD .nan))

mutual

/-- The tokens of the compact text of a value. -/
def valueTokens : Json → List Token
  | .null => [.ident "null"]
  | .bool true => [.ident "true"]
  | .bool false => [.ident "false"]
  | .int n => numberTokens (intText n)
  | .float x => if x.isFinite then numberTokens (Layout.json.text x) else [.ident "null"]
  | .string s => [.string s.toList]
  | .array [] => [.openBracket, .closeBracket]
  | .array (v :: items) => .openBracket :: (valueTokens v ++ itemsTokens items)
  | .object [] => [.openBrace, .closeBrace]
  | .object ((k, v) :: members) =>
    .openBrace :: .string k.toList :: .colon :: (valueTokens v ++ membersTokens members)

/-- The items after the first one, and the closing bracket. -/
def itemsTokens : List Json → List Token
  | [] => [.closeBracket]
  | v :: items => .comma :: (valueTokens v ++ itemsTokens items)

/-- The members after the first one, and the closing brace. -/
def membersTokens : List (String × Json) → List Token
  | [] => [.closeBrace]
  | (k, v) :: members =>
    .comma :: .string k.toList :: .colon :: (valueTokens v ++ membersTokens members)

end

mutual

/-- The tree of the compact text of a value. -/
def valueTree : Json → Expr
  | .null => .literal .null
  | .bool b => .literal (.bool b)
  | .int n => numberTree (intText n)
  | .float x => if x.isFinite then numberTree (Layout.json.text x) else .literal .null
  | .string s => .literal (.string s)
  | .array items => .array (itemTrees items)
  | .object members => .object (memberTrees members)

def itemTrees : List Json → List Expr
  | [] => []
  | v :: items => valueTree v :: itemTrees items

def memberTrees : List (String × Json) → List (String × Expr)
  | [] => []
  | (k, v) :: members => (k, valueTree v) :: memberTrees members

end

/-! ## Numbers -/

/-- A numeral, perhaps with a minus sign in front. -/
inductive IsSigned : List Char → Prop
  | plain {u : List Char} (isNumeral : IsNumeral u) : IsSigned u
  | negative {u : List Char} (isNumeral : IsNumeral u) : IsSigned ('-' :: u)

theorem isSigned_intText (n : Int) : IsSigned (intText n) := by
  cases n with
  | ofNat n => exact .plain (isNumeral_digits (isDigits_digits n))
  | negSucc n => exact .negative (isNumeral_digits (isDigits_digits (n + 1)))

theorem isSigned_text (layout : Layout) {x : Binary64} (finite : x.isFinite = true) :
    IsSigned (layout.text x) := by
  cases x with
  | nan => cases finite
  | infinite n => cases finite
  | finite n m e canonical =>
    unfold Layout.text
    dsimp only
    split
    · exact .negative (isNumeral_set layout _)
    · exact .plain (isNumeral_set layout _)

/-- The text of a number is its numeral, with a minus sign as an operator. -/
theorem numberTokens_numeral {u : List Char} (isNumeral : IsNumeral u) :
    numberTokens u = [.number ((Binary64.ofText? u).getD .nan)] ∧
      numberTree u = .literal (.ofNumber ((Binary64.ofText? u).getD .nan)) := by
  obtain ⟨c, r, rfl, digit⟩ := isNumeral.head
  have notMinus := ne_of_isDigit digit (rfl : '-'.isDigit = false)
  refine ⟨?_, ?_⟩
  · unfold numberTokens
    split
    · rename_i same
      exact absurd (List.cons.inj same).1 notMinus
    · rfl
  · unfold numberTree
    split
    · rename_i same
      exact absurd (List.cons.inj same).1 notMinus
    · rfl

theorem lexes_numeral {u : List Char} (isNumeral : IsNumeral u) :
    Lexes u [.number ((Binary64.ofText? u).getD .nan)] := by
  obtain ⟨n, spells, cut⟩ := tokens?_numeral isNumeral
  rw [spells]
  exact lexes_of_tokens? cut

theorem lexes_number {u : List Char} (isSigned : IsSigned u) : Lexes u (numberTokens u) := by
  cases isSigned with
  | plain isNumeral =>
    rw [(numberTokens_numeral isNumeral).1]
    exact lexes_numeral isNumeral
  | negative isNumeral =>
    have minus : Cuts ['-'] [.minus] :=
      cuts_punctuation rfl (by decide) (fun _ => rfl) (fun _ => rfl)
    exact minus.append_lexes (lexes_numeral isNumeral)

/-! ## The text is cut into the tokens -/

theorem cuts_comma : Cuts [','] [.comma] :=
  cuts_punctuation rfl (by decide) (fun _ => rfl) (fun _ => rfl)

theorem cuts_colon : Cuts [':'] [.colon] :=
  cuts_punctuation rfl (by decide) (fun _ => rfl) (fun _ => rfl)

theorem cuts_openBracket : Cuts ['['] [.openBracket] :=
  cuts_punctuation rfl (by decide) (fun _ => rfl) (fun _ => rfl)

theorem cuts_closeBracket : Cuts [']'] [.closeBracket] :=
  cuts_punctuation rfl (by decide) (fun _ => rfl) (fun _ => rfl)

theorem cuts_openBrace : Cuts ['\x7b'] [.openBrace] :=
  cuts_punctuation rfl (by decide) (fun _ => rfl) (fun _ => rfl)

theorem cuts_closeBrace : Cuts ['\x7d'] [.closeBrace] :=
  cuts_punctuation rfl (by decide) (fun _ => rfl) (fun _ => rfl)

theorem lexes_null : Lexes ['n', 'u', 'l', 'l'] [.ident "null"] :=
  lexes_of_tokens? (by decide +kernel)

theorem lexes_bool (b : Bool) : Lexes (Json.bool b).chars (valueTokens (.bool b)) := by
  cases b with
  | true => exact lexes_of_tokens? (by decide +kernel)
  | false => exact lexes_of_tokens? (by decide +kernel)

theorem cuts_array {v : Json} {items : List Json} (first : Lexes v.chars (valueTokens v))
    (others : Stands (itemsChars items) (itemsTokens items)) :
    Cuts (Json.array (v :: items)).chars (valueTokens (.array (v :: items))) :=
  cuts_openBracket.append (first.append_stands others)

/-- A key, its colon and its value, in front of more members. -/
theorem cuts_member (k : String) {v : Json} {members : List (String × Json)}
    (first : Lexes v.chars (valueTokens v))
    (others : Stands (membersChars members) (membersTokens members)) :
    Cuts (quoted k.toList ++ (':' :: (v.chars ++ membersChars members)))
      (.string k.toList :: .colon :: (valueTokens v ++ membersTokens members)) :=
  (cuts_quoted k.toList).append (cuts_colon.append (first.append_stands others))

theorem cuts_object (k : String) {v : Json} {members : List (String × Json)}
    (first : Lexes v.chars (valueTokens v))
    (others : Stands (membersChars members) (membersTokens members)) :
    Cuts (Json.object ((k, v) :: members)).chars (valueTokens (.object ((k, v) :: members))) := by
  have cuts := cuts_openBrace.append (cuts_member k first others)
  simpa [Json.chars, valueTokens] using cuts

mutual

/-- **The text of a value is cut into its tokens**, in front of whatever may follow it. -/
theorem lexes_value : ∀ v : Json, Lexes v.chars (valueTokens v)
  | .null => lexes_null
  | .bool b => lexes_bool b
  | .int n => lexes_number (isSigned_intText n)
  | .float x => by
    unfold Json.chars valueTokens
    split
    · rename_i finite
      exact lexes_number (isSigned_text Layout.json finite)
    · exact lexes_null
  | .string s => (cuts_quoted s.toList).lexes
  | .array [] => (cuts_openBracket.append cuts_closeBracket).lexes
  | .array (v :: items) => (cuts_array (lexes_value v) (stands_items items)).lexes
  | .object [] => (cuts_openBrace.append cuts_closeBrace).lexes
  | .object ((k, v) :: members) => (cuts_object k (lexes_value v) (stands_members members)).lexes

theorem stands_items : ∀ items : List Json, Stands (itemsChars items) (itemsTokens items)
  | [] => cuts_closeBracket.stands (by decide)
  | v :: items =>
    (cuts_comma.append ((lexes_value v).append_stands (stands_items items))).stands (by decide)

theorem stands_members : ∀ members : List (String × Json),
    Stands (membersChars members) (membersTokens members)
  | [] => cuts_closeBrace.stands (by decide)
  | (k, v) :: members => by
    have cuts := cuts_comma.append (cuts_member k (lexes_value v) (stands_members members))
    have stands := Cuts.stands (c := ',') (by decide) cuts
    simpa [membersChars, membersTokens] using stands

end

/-- An array or an object is cut so whatever follows it. -/
theorem stands_compound {v : Json} (compound : v.isCompound = true) :
    Stands v.chars (valueTokens v) := by
  cases v with
  | array items =>
    cases items with
    | nil => exact (cuts_openBracket.append cuts_closeBracket).stands (by decide)
    | cons v items => exact (cuts_array (lexes_value v) (stands_items items)).stands (by decide)
  | object members =>
    cases members with
    | nil => exact (cuts_openBrace.append cuts_closeBrace).stands (by decide)
    | cons member members =>
      have cuts := cuts_object member.1 (lexes_value member.2) (stands_members members)
      exact cuts.stands (by decide)
  | _ => cases compound

/-! ## The tokens are read as the tree -/

/-- What may follow a value inside another one, or at the end. -/
def Closes (rest : List Token) : Prop :=
  ∀ t ∈ rest.head?, t = .comma ∨ t = .closeBracket ∨ t = .closeBrace

theorem Closes.not_arrow {rest : List Token} (closes : Closes rest) : rest.head? ≠ some .arrow := by
  intro same
  rcases closes _ same with other | other | other <;> cases other

theorem operator?_closing {level : Nat} {t : Token}
    (closing : t = .comma ∨ t = .closeBracket ∨ t = .closeBrace) : operator? level t = none := by
  unfold operator?
  split
  all_goals first
    | rfl
    | (rcases closing with other | other | other <;> cases other)

theorem Closes.stops {rest : List Token} (closes : Closes rest) : Stops 0 rest := by
  refine fun t first => ⟨?_, fun level _ => operator?_closing (closes t first)⟩
  rcases closes t first with rfl | rfl | rfl <;> rfl

/-- An operand that something closes is an expression. -/
theorem reads_closed {ts rest : List Token} {e : Expr} (notArrow : arrowHead? ts = none)
    (reads : ReadsUnary ts e rest) (closes : Closes rest) : ReadsExpression ts e rest := by
  refine .plain notArrow (reads.binary closes.stops) fun same => ?_
  rcases closes _ same with other | other | other <;> cases other

theorem Closes.accesses {rest : List Token} (closes : Closes rest) (e : Expr) :
    ReadsAccesses e rest e rest :=
  closes.stops.accesses e

theorem reads_primary {t : Token} {ts rest : List Token} {e : Expr}
    (notArrow : arrowHead? (t :: ts) = none) (reads : ReadsPrimary t ts e rest)
    (closes : Closes rest) : ReadsExpression (t :: ts) e rest :=
  reads_closed notArrow (.operand reads.unaryOp?_eq_none reads (closes.accesses e)) closes

theorem arrowHead?_ident {name : String} {rest : List Token} (other : rest.head? ≠ some .arrow) :
    arrowHead? (.ident name :: rest) = none := by
  cases rest with
  | nil => rfl
  | cons t rest =>
    cases t with
    | arrow => exact absurd rfl other
    | _ => rfl

theorem reads_literal {name : String} {rest : List Token} (closes : Closes rest) :
    ReadsExpression (.ident name :: rest) (ofName name) rest :=
  reads_primary (arrowHead?_ident closes.not_arrow) .ident closes

theorem reads_number {u : List Char} (isSigned : IsSigned u) {rest : List Token}
    (closes : Closes rest) : ReadsExpression (numberTokens u ++ rest) (numberTree u) rest := by
  cases isSigned with
  | plain isNumeral =>
    obtain ⟨tokens, tree⟩ := numberTokens_numeral isNumeral
    rw [tokens, tree]
    exact reads_primary rfl .number closes
  | negative isNumeral =>
    exact reads_closed rfl (.operator rfl (.operand rfl .number (closes.accesses _))) closes

theorem closes_cons {t : Token} (closing : t = .comma ∨ t = .closeBracket ∨ t = .closeBrace)
    (rest : List Token) : Closes (t :: rest) := by
  intro t' first
  cases first
  exact closing

theorem entryKey?_string (k : String) : entryKey? (.string k.toList) = some k :=
  congrArg some (String.ofList_toList (s := k))

theorem reads_array {v : Json} {items : List Json} {rest : List Token}
    (list : ReadsList .closeBracket (valueTokens v ++ (itemsTokens items ++ rest))
      (valueTree v :: itemTrees items) rest) :
    ReadsPrimary .openBracket (valueTokens v ++ itemsTokens items ++ rest)
      (valueTree (.array (v :: items))) rest := by
  rw [List.append_assoc]
  exact .array list

theorem reads_object {k : String} {v : Json} {members : List (String × Json)} {rest : List Token}
    (entries : ReadsEntries
      (.string k.toList :: .colon :: (valueTokens v ++ (membersTokens members ++ rest)))
      ((k, valueTree v) :: memberTrees members) rest) :
    ReadsPrimary .openBrace
      (.string k.toList :: .colon :: (valueTokens v ++ membersTokens members) ++ rest)
      (valueTree (.object ((k, v) :: members))) rest := by
  rw [List.cons_append, List.cons_append, List.append_assoc]
  exact .object entries

mutual

/-- **The tokens of a value are read as its tree.** -/
theorem reads_value : ∀ (v : Json) {rest : List Token}, Closes rest →
    ReadsExpression (valueTokens v ++ rest) (valueTree v) rest
  | .null, _, closes => reads_literal closes
  | .bool true, _, closes => reads_literal closes
  | .bool false, _, closes => reads_literal closes
  | .int n, _, closes => reads_number (isSigned_intText n) closes
  | .float x, _, closes => by
    unfold valueTokens valueTree
    split
    · rename_i finite
      exact reads_number (isSigned_text Layout.json finite) closes
    · exact reads_literal closes
  | .string s, rest, closes => by
    have reads := reads_primary rfl (ReadsPrimary.string (s := s.toList)) closes
    rwa [String.ofList_toList] at reads
  | .array [], _, closes => reads_primary rfl (.array .done) closes
  | .array (v :: items), rest, closes =>
    reads_primary rfl (reads_array (reads_items items (reads_value v))) closes
  | .object [], _, closes => reads_primary rfl (.object .done) closes
  | .object ((k, v) :: members), _, closes =>
    reads_primary rfl (reads_object (reads_members members k (reads_value v))) closes

theorem reads_items : ∀ (items : List Json) {v : Json} {rest : List Token},
    (∀ {rest : List Token}, Closes rest →
      ReadsExpression (valueTokens v ++ rest) (valueTree v) rest) →
    ReadsList .closeBracket (valueTokens v ++ (itemsTokens items ++ rest))
      (valueTree v :: itemTrees items) rest
  | [], _, rest, first => by
    have item := first (closes_cons (t := .closeBracket) (by simp) rest)
    exact .last item.head_ne (by simp) item
  | v :: items, _, rest, first => by
    have item := first (closes_cons (t := .comma) (by simp)
      (valueTokens v ++ (itemsTokens items ++ rest)))
    have list := ReadsList.more item.head_ne item (reads_items items (reads_value v))
    simpa [itemsTokens, itemTrees] using list

theorem reads_members : ∀ (members : List (String × Json)) (k : String) {v : Json}
    {rest : List Token}, (∀ {rest : List Token}, Closes rest →
      ReadsExpression (valueTokens v ++ rest) (valueTree v) rest) →
    ReadsEntries (.string k.toList :: .colon :: (valueTokens v ++ (membersTokens members ++ rest)))
      ((k, valueTree v) :: memberTrees members) rest
  | [], k, _, rest, first => by
    have value := first (closes_cons (t := .closeBrace) (by simp) rest)
    exact .last (entryKey?_string k) value
  | (k', v) :: members, k, _, rest, first => by
    have value := first (closes_cons (t := .comma) (by simp)
      (.string k'.toList :: .colon :: (valueTokens v ++ (membersTokens members ++ rest))))
    have entries := ReadsEntries.more (entryKey?_string k) value
      (reads_members members k' (reads_value v))
    simpa [membersTokens, memberTrees] using entries

end

/-- **An array or an object is read whatever follows it.** -/
theorem reads_compound {v : Json} (compound : v.isCompound = true) :
    ∃ t inside, valueTokens v = t :: inside ∧ (t = .openBracket ∨ t = .openBrace) ∧
      ∀ rest, ReadsPrimary t (inside ++ rest) (valueTree v) rest := by
  cases v with
  | array items =>
    cases items with
    | nil => exact ⟨_, _, rfl, Or.inl rfl, fun _ => .array .done⟩
    | cons v items =>
      exact ⟨_, _, rfl, Or.inl rfl, fun _ => reads_array (reads_items items (reads_value v))⟩
  | object members =>
    cases members with
    | nil => exact ⟨_, _, rfl, Or.inr rfl, fun _ => .object .done⟩
    | cons member members =>
      exact ⟨_, _, rfl, Or.inr rfl, fun _ =>
        reads_object (reads_members members member.1 (reads_value member.2))⟩
  | _ => cases compound

/-- **A text with the tokens of a value parses to its tree.** -/
theorem parse_of_tokens {s : List Char} {v : Json} (tokens : tokens? s = some (valueTokens v)) :
    parse s = .ok (valueTree v) := by
  have nothing : Closes [] := fun t first => by cases first
  have reads := reads_value v nothing
  rw [List.append_nil] at reads
  exact parse_eq_ok_iff.2 ⟨_, tokens, reads⟩

end Formulary.Script
