import Formulary.Json.Printer
import Formulary.Proofs.JsonWord

/-!
# JSON text is read back

The text of a value is cut into the tokens of the value (`spelling`), whether it is compact or
indented: punctuation stands alone, and a word ends where punctuation or a blank begins. The machine
that builds values from tokens gives the value back from any stack of open containers that leaves
room for it (`build_spelling`).

* `written?_chars`, `written?_indentedChars`: a value is read back from its texts.
-/

namespace Formulary.Json

open Decimal

/-! ## Values that have a text of their own -/

/-- The numbers of a value are finite doubles and integers of 64 bits, and its containers nest at
most `n` deep. -/
inductive Kept : Nat → Json → Prop
  | null {n : Nat} : Kept n .null
  | bool {n : Nat} (b : Bool) : Kept n (.bool b)
  | int {n : Nat} {i : Int} (low : -2 ^ 63 ≤ i) (high : i < 2 ^ 64) : Kept n (.int i)
  | float {n : Nat} {x : Binary64} (finite : x.isFinite = true) : Kept n (.float x)
  | string {n : Nat} (s : String) : Kept n (.string s)
  | array {n : Nat} {items : List Json} (each : ∀ v ∈ items, Kept n v) : Kept (n + 1) (.array items)
  | object {n : Nat} {members : Members} (each : ∀ m ∈ members, Kept n m.2) :
    Kept (n + 1) (.object members)

theorem Kept.mono {n m : Nat} {v : Json} (kept : Kept n v) (le : n ≤ m) : Kept m v := by
  induction kept generalizing m with
  | null => exact .null
  | bool b => exact .bool b
  | int low high => exact .int low high
  | float finite => exact .float finite
  | string s => exact .string s
  | array each ih =>
    obtain ⟨k, rfl⟩ := Nat.exists_eq_add_of_lt le
    exact .array fun v among => ih v among (by omega)
  | object each ih =>
    obtain ⟨k, rfl⟩ := Nat.exists_eq_add_of_lt le
    exact .object fun m among => ih m among (by omega)

mutual

/-- The tokens of a value. -/
def spelling : Json → List Token
  | .array [] => [.openArray, .closeArray]
  | .array (v :: items) => .openArray :: (v.spelling ++ spellingItems items)
  | .object [] => [.openObject, .closeObject]
  | .object ((k, v) :: members) =>
    .openObject :: .scalar (.string k) :: .colon :: (v.spelling ++ spellingMembers members)
  | v => [.scalar v]

/-- The tokens of the items after the first one, and of the closing bracket. -/
def spellingItems : List Json → List Token
  | [] => [.closeArray]
  | v :: items => .comma :: (v.spelling ++ spellingItems items)

/-- The tokens of the members after the first one, and of the closing brace. -/
def spellingMembers : List (String × Json) → List Token
  | [] => [.closeObject]
  | (k, v) :: members =>
    .comma :: .scalar (.string k) :: .colon :: (v.spelling ++ spellingMembers members)

end

/-! ## Cutting -/

/-- A word ends in front of this text. -/
def Apart (s : List Char) : Prop := ∀ c ∈ s.head?, isSpace c = true ∨ (punctuation? c).isSome = true

/-- The text is cut into these tokens, whatever follows it. -/
def Cuts (s : List Char) (ts : List Token) : Prop :=
  ∀ rest, tokens .between (s ++ rest) = (tokens .between rest).map (ts ++ ·)

/-- The text is cut into these tokens in front of what ends a word. -/
def Reads (s : List Char) (ts : List Token) : Prop :=
  ∀ rest, Apart rest → tokens .between (s ++ rest) = (tokens .between rest).map (ts ++ ·)

/-- The text ends a word and is cut into these tokens. -/
structure Closes (s : List Char) (ts : List Token) : Prop where
  cuts : Cuts s ts
  apart : ∀ rest, Apart (s ++ rest)

-- The equations of the lexer and of the machine are made here, once for all the proofs that rewrite
-- with them.
attribute [simp] tokens build

section Cutting

variable {s s' : List Char} {ts ts' : List Token} {c : Char} {t : Token}

theorem Cuts.reads (cuts : Cuts s ts) : Reads s ts := fun rest _ => cuts rest

theorem cuts_nil : Cuts [] [] := by
  intro rest
  exact Option.map_id'.symm

theorem Cuts.append (cuts : Cuts s ts) (cuts' : Cuts s' ts') : Cuts (s ++ s') (ts ++ ts') := by
  intro rest
  rw [List.append_assoc, cuts, cuts', Option.map_map]
  exact congrArg (Option.map · _) (funext fun us => (List.append_assoc ..).symm)

/-- What ends a word may follow one. -/
theorem Reads.append (reads : Reads s ts) (closes : Closes s' ts') :
    Cuts (s ++ s') (ts ++ ts') := by
  intro rest
  rw [List.append_assoc, reads _ (closes.apart rest), closes.cuts, Option.map_map]
  exact congrArg (Option.map · _) (funext fun us => (List.append_assoc ..).symm)

theorem tokens_space (space : isSpace c = true) (s : List Char) :
    tokens .between (c :: s) = tokens .between s := by
  rw [tokens, if_pos space]

theorem Cuts.space (space : isSpace c = true) (cuts : Cuts s ts) : Closes (c :: s) ts := by
  refine ⟨fun rest => ?_, fun rest d first => ?_⟩
  · rw [List.cons_append, tokens_space space, cuts]
  · cases first
    exact Or.inl space

theorem plain_of_punctuation (mark : punctuation? c = some t) : isSpace c = false ∧ c ≠ '"' := by
  unfold punctuation? at mark
  split at mark
  case h_7 => cases mark
  all_goals exact ⟨rfl, by decide⟩

theorem tokens_punctuation (mark : punctuation? c = some t) (s : List Char) :
    tokens .between (c :: s) = (tokens .between s).map (t :: ·) := by
  obtain ⟨space, quote⟩ := plain_of_punctuation mark
  rw [tokens, space, if_neg Bool.false_ne_true, if_neg quote, mark]
  cases tokens .between s <;> rfl

theorem Cuts.punctuation (mark : punctuation? c = some t) (cuts : Cuts s ts) :
    Closes (c :: s) (t :: ts) := by
  refine ⟨fun rest => ?_, fun rest d first => ?_⟩
  · rw [List.cons_append, tokens_punctuation mark, cuts, Option.map_map]
    rfl
  · cases first
    rw [mark]
    exact Or.inr rfl

/-! ## Words and strings -/

/-- A character inside a word. -/
def IsPlain (c : Char) : Prop := isSpace c = false ∧ c ≠ '"' ∧ punctuation? c = none

theorem tokens_word {w : List Char} (plain : ∀ c ∈ w, IsPlain c) (r rest : List Char) :
    tokens (.word r) (w ++ rest) = tokens (.word (w.reverse ++ r)) rest := by
  induction w generalizing r with
  | nil => rfl
  | cons c w ih =>
    obtain ⟨space, quote, mark⟩ := plain c List.mem_cons_self
    rw [List.cons_append, tokens, space, if_neg Bool.false_ne_true, if_neg quote, mark]
    dsimp only
    rw [ih fun d among => plain d (List.mem_cons_of_mem _ among), List.reverse_cons,
      List.append_assoc]
    rfl

/-- A word is one token. -/
theorem reads_word {w : List Char} {v : Json} (filled : w ≠ []) (plain : ∀ c ∈ w, IsPlain c)
    (read : readWord w = some v) : Reads w [.scalar v] := by
  intro rest apart
  obtain ⟨c, w, rfl⟩ := List.exists_cons_of_ne_nil filled
  obtain ⟨space, quote, mark⟩ := plain c List.mem_cons_self
  have start : tokens .between (c :: w ++ rest) = tokens (.word [c]) (w ++ rest) := by
    rw [List.cons_append, tokens, space, if_neg Bool.false_ne_true, if_neg quote, mark]
  rw [start, tokens_word fun d among => plain d (List.mem_cons_of_mem _ among)]
  have whole : (w.reverse ++ [c]).reverse = c :: w := by simp
  generalize w.reverse ++ [c] = back at whole
  cases rest with
  | nil =>
    have last : tokens (.word back) [] = (do return [.scalar (← readWord back.reverse)]) := by
      rw [tokens]
    rw [last, whole, read]
    rfl
  | cons d rest =>
    rcases apart d rfl with space | mark
    · rw [tokens_space space, tokens, if_pos space, whole, read]
      cases tokens .between rest <;> rfl
    · obtain ⟨t, mark⟩ := Option.isSome_iff_exists.1 mark
      obtain ⟨space, quote⟩ := plain_of_punctuation mark
      rw [tokens_punctuation mark, tokens, space, if_neg Bool.false_ne_true, if_neg quote, mark,
        whole, read]
      cases tokens .between rest <;> rfl

/-- A character in its escaped form is read in a string. -/
theorem tokens_escape (c : Char) (r t : List Char) :
    tokens (.string r) (escape c ++ t) = tokens (.string (c :: r)) t := by
  unfold escape
  split
  · rfl
  · rfl
  · rfl
  · rfl
  · rfl
  · rfl
  · rfl
  · rename_i quote backslash _ _ _ _ _
    split
    · rename_i small
      have units : ∀ n : Fin 32, hexUnit? '0' '0' (Nat.digitChar (n.val / 16))
          (Nat.digitChar (n.val % 16)) = some n.val := by
        decide
      have read := units ⟨c.toNat, small⟩
      show tokens (.string r) ('\\' :: 'u' :: '0' :: '0' :: Nat.digitChar (c.toNat / 16) ::
        Nat.digitChar (c.toNat % 16) :: t) = _
      rw [tokens, read]
      dsimp only [Option.bind_eq_bind, Option.bind_some]
      rw [if_neg (by omega), if_neg (by omega), Char.ofNat_toNat]
    · rename_i large
      show tokens (.string r) (c :: t) = _
      rw [tokens, if_neg large]
      · exact quote
      · exact fun _ _ _ _ _ same _ => backslash same
      · exact fun _ _ same _ => backslash same
      · exact fun same _ => backslash same

/-- A text in quotes is one token. -/
theorem cuts_quoted (s : List Char) : Cuts (quoted s) [.scalar (.string (String.ofList s))] := by
  have inner (r rest : List Char) : tokens (.string r) (s.flatMap escape ++ '"' :: rest) =
      (tokens .between rest).map (.scalar (.string (String.ofList (r.reverse ++ s))) :: ·) := by
    induction s generalizing r with
    | nil =>
      show tokens (.string r) ('"' :: rest) = _
      rw [tokens, List.append_nil]
      cases tokens .between rest <;> rfl
    | cons c s ih =>
      rw [List.flatMap_cons, List.append_assoc, tokens_escape, ih, List.reverse_cons,
        List.append_assoc]
      rfl
  intro rest
  have shape : quoted s ++ rest = '"' :: (s.flatMap escape ++ '"' :: rest) := by
    simp [quoted]
  have space : isSpace '"' = false := rfl
  rw [shape, tokens, space, if_neg Bool.false_ne_true, if_pos rfl, inner]
  rfl

end Cutting

/-! ## The texts of a value -/

theorem isPlain_of_isNumeral {u : List Char} (isNumeral : IsNumeral u) : ∀ c ∈ u, IsPlain c := by
  intro c among
  rcases isNumeral.mem_cases among with digit | mark
  · have other {d : Char} (other : d.isDigit = false) : decide (c = d) = false :=
      decide_eq_false (Script.ne_of_isDigit digit other)
    refine ⟨?_, Script.ne_of_isDigit digit rfl, ?_⟩
    · unfold isSpace
      rw [other rfl, other rfl, other rfl, other rfl]
      rfl
    · unfold punctuation?
      split
      case h_7 => rfl
      all_goals exact absurd rfl (Script.ne_of_isDigit digit rfl)
  · have plain : ∀ c ∈ ['.', 'e', '+', '-'],
        isSpace c = false ∧ c ≠ '"' ∧ (punctuation? c).isNone = true := by decide
    obtain ⟨space, quote, none⟩ := plain c mark
    exact ⟨space, quote, Option.isNone_iff_eq_none.1 none⟩

/-- A number with or without a sign is one token. -/
theorem reads_number {u : List Char} (isNumeral : IsNumeral u) {v : Json} :
    (readWord u = some v → Reads u [.scalar v]) ∧
      (readWord ('-' :: u) = some v → Reads ('-' :: u) [.scalar v]) := by
  have plain := isPlain_of_isNumeral isNumeral
  obtain ⟨c, r, shape, -⟩ := isNumeral.head
  refine ⟨reads_word (shape ▸ List.cons_ne_nil c r) plain, reads_word (List.cons_ne_nil _ _) ?_⟩
  exact List.forall_mem_cons.2 ⟨⟨rfl, by decide, rfl⟩, plain⟩

theorem reads_keyword {w : List Char} {v : Json} (read : readWord w = some v)
    (letters : w ≠ [] ∧ ∀ c ∈ w, isSpace c = false ∧ c ≠ '"' ∧ (punctuation? c).isNone = true) :
    Reads w [.scalar v] := by
  refine reads_word letters.1 (fun c among => ?_) read
  obtain ⟨space, quote, none⟩ := letters.2 c among
  exact ⟨space, quote, Option.isNone_iff_eq_none.1 none⟩

theorem reads_intText {n : Int} (low : -2 ^ 63 ≤ n) (high : n < 2 ^ 64) :
    Reads (intText n) [.scalar (.int n)] := by
  have read := readWord_intText low high
  cases n with
  | ofNat k => exact (reads_number (isNumeral_digits (isDigits_digits k))).1 read
  | negSucc k => exact (reads_number (isNumeral_digits (isDigits_digits (k + 1)))).2 read

theorem reads_text {x : Binary64} (finite : x.isFinite = true) :
    Reads (Layout.json.text x) [.scalar (.float x)] := by
  have read := readWord_text finite
  cases x with
  | nan | infinite => cases finite
  | finite negative m e canonical =>
    have isNumeral := isNumeral_set Layout.json (Binary64.shortest .even m e)
    cases negative with
    | true => exact (reads_number isNumeral).2 read
    | false => exact (reads_number isNumeral).1 read

theorem cuts_quotedString (s : String) : Cuts (quoted s.toList) [.scalar (.string s)] := by
  have one := cuts_quoted s.toList
  rwa [String.ofList_toList] at one

/-- A key with its colon and what follows it. -/
theorem Cuts.key {s : List Char} {ts : List Token} (cuts : Cuts s ts) (k : String) :
    Cuts (quoted k.toList ++ ':' :: s) (.scalar (.string k) :: .colon :: ts) :=
  (cuts_quotedString k).append (cuts.punctuation rfl).cuts

theorem closes_itemsChars {items : List Json} (each : ∀ v ∈ items, Reads v.chars v.spelling) :
    Closes (itemsChars items) (spellingItems items) := by
  induction items with
  | nil => exact cuts_nil.punctuation rfl
  | cons v items ih =>
    have rest := ih fun w among => each w (List.mem_cons_of_mem _ among)
    exact ((each v List.mem_cons_self).append rest).punctuation rfl

theorem closes_membersChars {members : Members}
    (each : ∀ m ∈ members, Reads m.2.chars m.2.spelling) :
    Closes (membersChars members) (spellingMembers members) := by
  induction members with
  | nil => exact cuts_nil.punctuation rfl
  | cons m members ih =>
    obtain ⟨k, v⟩ := m
    have rest := ih fun m among => each m (List.mem_cons_of_mem _ among)
    have member := ((each (k, v) List.mem_cons_self).append rest).key k
    have shape : membersChars ((k, v) :: members) =
        ',' :: (quoted k.toList ++ ':' :: (v.chars ++ membersChars members)) := by
      simp [membersChars]
    exact shape ▸ member.punctuation rfl

/-- **The compact text of a value is cut into the tokens of the value.** -/
theorem reads_chars {n : Nat} {v : Json} (kept : Kept n v) : Reads v.chars v.spelling := by
  induction kept with
  | null => exact reads_keyword rfl (by decide)
  | bool b => cases b <;> exact reads_keyword rfl (by decide)
  | int low high => exact reads_intText low high
  | float finite =>
    rw [chars, if_pos finite]
    exact reads_text finite
  | string s => exact (cuts_quotedString s).reads
  | @array _ items each ih =>
    cases items with
    | nil => exact ((cuts_nil.punctuation rfl).cuts.punctuation rfl).cuts.reads
    | cons v items =>
      have rest := closes_itemsChars fun w among => ih w (List.mem_cons_of_mem _ among)
      exact (((ih v List.mem_cons_self).append rest).punctuation rfl).cuts.reads
  | @object _ members each ih =>
    cases members with
    | nil => exact ((cuts_nil.punctuation rfl).cuts.punctuation rfl).cuts.reads
    | cons m members =>
      obtain ⟨k, v⟩ := m
      have rest := closes_membersChars fun m among => ih m (List.mem_cons_of_mem _ among)
      have member := ((ih (k, v) List.mem_cons_self).append rest).key k
      have shape : (Json.object ((k, v) :: members)).chars =
          '\x7b' :: (quoted k.toList ++ ':' :: (v.chars ++ membersChars members)) := by
        simp [chars]
      exact shape ▸ (member.punctuation rfl).cuts.reads

/-! ### Indented -/

theorem Cuts.newline {s : List Char} {ts : List Token} (cuts : Cuts s ts) (level : Nat) :
    Closes (newline level ++ s) ts := by
  have blanks (k : Nat) : Cuts (List.replicate k ' ' ++ s) ts := by
    induction k with
    | zero => exact cuts
    | succ k ih => exact (ih.space rfl).cuts
  exact (blanks (2 * level)).space rfl

theorem closes_indentedItems {items : List Json} {level : Nat}
    (each : ∀ v ∈ items, Reads (v.indentedChars (level + 1)) v.spelling) :
    Closes (indentedItems level items) (spellingItems items) := by
  induction items with
  | nil => exact (cuts_nil.punctuation rfl).cuts.newline level
  | cons v items ih =>
    have rest := ih fun w among => each w (List.mem_cons_of_mem _ among)
    have item := ((each v List.mem_cons_self).append rest).newline (level + 1)
    rw [← List.append_assoc] at item
    exact item.cuts.punctuation rfl

theorem closes_indentedMembers {members : Members} {level : Nat}
    (each : ∀ m ∈ members, Reads (m.2.indentedChars (level + 1)) m.2.spelling) :
    Closes (indentedMembers level members) (spellingMembers members) := by
  induction members with
  | nil => exact (cuts_nil.punctuation rfl).cuts.newline level
  | cons m members ih =>
    obtain ⟨k, v⟩ := m
    have rest := ih fun m among => each m (List.mem_cons_of_mem _ among)
    have value := ((each (k, v) List.mem_cons_self).append rest).space (c := ' ') rfl
    have member := (value.cuts.key k).newline (level + 1)
    have shape : indentedMembers level ((k, v) :: members) =
        ',' :: (newline (level + 1) ++ (quoted k.toList ++
          ':' :: ' ' :: (v.indentedChars (level + 1) ++ indentedMembers level members))) := by
      simp [indentedMembers]
    exact shape ▸ member.cuts.punctuation rfl

/-- **So is the indented text.** -/
theorem reads_indentedChars {n : Nat} {v : Json} (kept : Kept n v) (level : Nat) :
    Reads (v.indentedChars level) v.spelling := by
  have compact := reads_chars kept
  induction kept generalizing level with
  | null | bool | int | float | string => exact compact
  | @array _ items each ih =>
    cases items with
    | nil => exact compact
    | cons v items =>
      have inner : ∀ w ∈ v :: items, Reads (w.indentedChars (level + 1)) w.spelling :=
        fun w among => ih w among (level + 1) (reads_chars (each w among))
      obtain ⟨first, others⟩ := List.forall_mem_cons.1 inner
      have item := (first.append (closes_indentedItems others)).newline (level + 1)
      rw [← List.append_assoc] at item
      exact (item.cuts.punctuation rfl).cuts.reads
  | @object _ members each ih =>
    cases members with
    | nil => exact compact
    | cons m members =>
      obtain ⟨k, v⟩ := m
      have inner : ∀ m ∈ (k, v) :: members, Reads (m.2.indentedChars (level + 1)) m.2.spelling :=
        fun m among => ih m among (level + 1) (reads_chars (each m among))
      obtain ⟨first, others⟩ := List.forall_mem_cons.1 inner
      have value := (first.append (closes_indentedMembers others)).space (c := ' ') rfl
      have member := (value.cuts.key k).newline (level + 1)
      have shape : (Json.object ((k, v) :: members)).indentedChars level =
          '\x7b' :: (newline (level + 1) ++ (quoted k.toList ++
            ':' :: ' ' :: (v.indentedChars (level + 1) ++ indentedMembers level members))) := by
        simp [indentedChars]
      exact shape ▸ (member.cuts.punctuation rfl).cuts.reads

/-! ## Building -/

/-- What building goes on with after a finished value. -/
def proceed (v : Json) (frames : List Frame) (ts : List Token) : Option Json :=
  match push v frames with
  | some (.inr v) => if ts.isEmpty then some v else none
  | some (.inl frames) => build frames .comma ts
  | none => none

section Building

variable {frames : List Frame} {expect : Expect}

theorem build_scalar (value : expect = .value ∨ expect = .item) (v : Json) (ts : List Token) :
    build frames expect (.scalar v :: ts) = proceed v frames ts := by
  rw [build.eq_def]
  exact if_pos value

theorem build_openArray (value : expect = .value ∨ expect = .item)
    (room : frames.length < depthLimit) (ts : List Token) :
    build frames expect (.openArray :: ts) = build (.array [] :: frames) .item ts := by
  rw [build, if_pos ⟨value, room⟩]

theorem build_openObject (value : expect = .value ∨ expect = .item)
    (room : frames.length < depthLimit) (ts : List Token) :
    build frames expect (.openObject :: ts) = build (.object [] none :: frames) .key ts := by
  rw [build, if_pos ⟨value, room⟩]

/-- A key and its colon. -/
theorem build_key {done : Members} (key : expect = .key ∨ expect = .nextKey) (k : String)
    (ts : List Token) :
    build (.object done none :: frames) expect (.scalar (.string k) :: .colon :: ts) =
      build (.object done (some k) :: frames) .value ts := by
  have other : ¬ (expect = .value ∨ expect = .item) := by
    rcases key with rfl | rfl <;> decide
  rw [build, if_neg other, if_pos key, build, if_pos rfl]

/-- The items of an array after some that are done, and its end. -/
theorem build_spellingItems {items : List Json} (done : List Json)
    (each : ∀ v ∈ items, ∀ done ts, build (.array done :: frames) .value (v.spelling ++ ts) =
      proceed v (.array done :: frames) ts) (ts : List Token) :
    build (.array done :: frames) .comma (spellingItems items ++ ts) =
      proceed (.array (done.reverse ++ items)) frames ts := by
  induction items generalizing done with
  | nil =>
    rw [List.append_nil, spellingItems, List.cons_append, build, if_pos (Or.inl rfl)]
    rfl
  | cons v items ih =>
    have rest := ih (v :: done) fun w among => each w (List.mem_cons_of_mem _ among)
    rw [List.reverse_cons, List.append_assoc] at rest
    rw [spellingItems, List.cons_append, build, if_pos rfl, List.append_assoc,
      each v List.mem_cons_self]
    exact rest

/-- The members of an object after some that are done, and its end. -/
theorem build_spellingMembers {members : Members} (done : Members)
    (each : ∀ m ∈ members, ∀ done k ts,
      build (.object done (some k) :: frames) .value (m.2.spelling ++ ts) =
        proceed m.2 (.object done (some k) :: frames) ts) (ts : List Token) :
    build (.object done none :: frames) .comma (spellingMembers members ++ ts) =
      proceed (.object (done.reverse ++ members)) frames ts := by
  induction members generalizing done with
  | nil =>
    rw [List.append_nil, spellingMembers, List.cons_append, build, if_pos (Or.inl rfl)]
    rfl
  | cons m members ih =>
    obtain ⟨k, v⟩ := m
    have rest := ih ((k, v) :: done) fun m among => each m (List.mem_cons_of_mem _ among)
    rw [List.reverse_cons, List.append_assoc] at rest
    simp only [spellingMembers, List.cons_append, List.append_assoc]
    rw [build, if_pos rfl, build_key (Or.inr rfl), each (k, v) List.mem_cons_self]
    exact rest

/-- **The machine takes the tokens of a value for the value**, from any stack that leaves room for
it. -/
theorem build_spelling {n : Nat} {v : Json} (kept : Kept n v)
    (room : frames.length + n ≤ depthLimit) (value : expect = .value ∨ expect = .item)
    (ts : List Token) : build frames expect (v.spelling ++ ts) = proceed v frames ts := by
  induction kept generalizing frames expect ts with
  | null | bool | int | float | string => exact build_scalar value _ ts
  | @array n items each ih =>
    have inside (done : List Json) : (Frame.array done :: frames).length + n ≤ depthLimit := by
      rw [List.length_cons]
      omega
    have opened := build_openArray value (show frames.length < depthLimit by omega)
    cases items with
    | nil =>
      show build frames expect (.openArray :: .closeArray :: ts) = _
      rw [opened, build, if_pos (Or.inr rfl)]
      rfl
    | cons v items =>
      have rest := build_spellingItems [v] (fun w among done ts =>
        ih w (List.mem_cons_of_mem _ among) (inside done) (Or.inl rfl) ts) ts
      rw [spelling, List.cons_append, opened, List.append_assoc,
        ih v List.mem_cons_self (inside []) (Or.inr rfl)]
      exact rest
  | @object n members each ih =>
    have inside (done : Members) (k : Option String) :
        (Frame.object done k :: frames).length + n ≤ depthLimit := by
      rw [List.length_cons]
      omega
    have opened := build_openObject value (show frames.length < depthLimit by omega)
    cases members with
    | nil =>
      show build frames expect (.openObject :: .closeObject :: ts) = _
      rw [opened, build, if_pos (Or.inr rfl)]
      rfl
    | cons m members =>
      obtain ⟨k, v⟩ := m
      have rest := build_spellingMembers [(k, v)] (fun m among done k ts =>
        ih m (List.mem_cons_of_mem _ among) (inside done k) (Or.inl rfl) ts) ts
      simp only [spelling, List.cons_append, List.append_assoc]
      rw [opened, build_key (Or.inl rfl), ih (k, v) List.mem_cons_self (inside [] k) (Or.inl rfl)]
      exact rest

end Building

/-! ## Reading back -/

/-- A text that is cut into the tokens of a value is the text of the value. -/
theorem written?_of_reads {s : List Char} {v : Json} (kept : Kept depthLimit v)
    (reads : Reads s v.spelling) : written? s = some v := by
  have cut := reads [] fun c first => by cases first
  have room : ([] : List Frame).length + depthLimit ≤ depthLimit := by decide
  have built := build_spelling kept room (Or.inl rfl) []
  rw [List.append_nil] at cut
  unfold written?
  rw [cut]
  exact built

/-- **A value is read back from its compact text.** -/
theorem written?_chars {v : Json} (kept : Kept depthLimit v) : written? v.chars = some v :=
  written?_of_reads kept (reads_chars kept)

/-- **A value is read back from its indented text.** -/
theorem written?_indentedChars {v : Json} (kept : Kept depthLimit v) :
    written? (v.indentedChars 0) = some v :=
  written?_of_reads kept (reads_indentedChars kept 0)

end Formulary.Json
