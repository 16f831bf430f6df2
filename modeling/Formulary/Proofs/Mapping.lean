import Formulary.Proofs.Scanning
import Formulary.Yaml.Value
import Mathlib.Data.List.Forall2

/-!
# The object of lines of front matter

The tokens of lines with a name and a quoted text are read as one mapping (`document_entries`), and
the value of the mapping is an object of texts. A name is a plain scalar, and as it starts with a
letter, it is a text too, unless it is one of the words for null and the truth values.

* `read?_entries`: the value of such lines one under the other.
-/

namespace Formulary.Yaml

open Scan (entryText entryTokens readPair?)

/-! ## Nodes -/

/-- The pair of nodes of a name and a text. -/
def entryNodes (e : List Char × List Char) : Node × Node :=
  (.scalar {} e.1 true, .scalar {} e.2 false)

namespace ReadM

variable {a : List (List Char × Nat)} {h : List (List Char × List Char)} {t : List Token}

theorem node_scalar (blocks indentless : Bool) (n : Nat) (text : List Char) (plain : Bool) :
    node blocks indentless (n + 1) ⟨.scalar text plain :: t, a, h⟩ =
      some (.scalar {} text plain, ⟨t, a, h⟩) := by
  rw [node]
  cases indentless <;> rfl

theorem nodeUnless_scalar (n : Nat) (text : List Char) (plain : Bool) :
    nodeUnless [.key, .value, .blockEnd] true true (n + 2)
        ⟨.scalar text plain :: t, a, h⟩ =
      some (.scalar {} text plain, ⟨t, a, h⟩) := by
  rw [nodeUnless]
  exact node_scalar true true n text plain

/-- A part that succeeds hands on what it answers and leaves. -/
theorem bind_of_eq {α β : Type} {m : ReadM α} {k : α → ReadM β} {r r' : Reading} {x : α}
    (ran : m r = some (x, r')) : (m >>= k) r = k x r' := by
  show (m r).bind (fun p => k p.1 p.2) = k x r'
  rw [ran]
  rfl

theorem eat_self (first : Token) :
    eat first ⟨first :: t, a, h⟩ = some (true, ⟨t, a, h⟩) := by
  have seen : peek? ⟨first :: t, a, h⟩ = some (some first, ⟨first :: t, a, h⟩) := rfl
  rw [eat, bind_of_eq seen, if_pos rfl]
  rfl

/-- Each pair of a mapping takes one step of the bound, and its value two more. -/
theorem blockPairs_entries (es : List (List Char × List Char)) (n : Nat)
    (enough : es.length + 2 ≤ n) :
    blockPairs n ⟨es.flatMap entryTokens ++ .blockEnd :: t, a, h⟩ =
      some (es.map entryNodes, ⟨t, a, h⟩) := by
  induction es generalizing n with
  | nil =>
    obtain ⟨n, rfl⟩ : ∃ m, n = m + 1 := ⟨n - 1, by rw [List.length_nil] at enough; omega⟩
    rw [blockPairs]
    rfl
  | cons e es ih =>
    obtain ⟨n, rfl⟩ : ∃ m, n = m + 3 := ⟨n - 3, by rw [List.length_cons] at enough; omega⟩
    have later := ih (n + 2) (by rw [List.length_cons] at enough; omega)
    have shape : (e :: es).flatMap entryTokens ++ .blockEnd :: t =
        .key :: .scalar e.1 true :: .value :: .scalar e.2 false ::
          (es.flatMap entryTokens ++ .blockEnd :: t) := rfl
    rw [shape, blockPairs, bind_of_eq (eat_self _), if_pos rfl,
      bind_of_eq (nodeUnless_scalar _ _ _), bind_of_eq (eat_self _)]
    dsimp only
    rw [if_pos rfl, bind_of_eq (nodeUnless_scalar _ _ _), bind_of_eq later]
    rfl

theorem node_mapping (es : List (List Char × List Char)) (n : Nat)
    (enough : es.length + 2 ≤ n) :
    node true false (n + 1) { tokens := mappingTokens es } =
      some (.mapping {} (es.map entryNodes), { tokens := [] }) := by
  have pairs := blockPairs_entries (a := []) (h := []) (t := []) es n enough
  rw [node]
  exact bind_of_eq (k := fun ps => pure (Node.mapping {} ps)) pairs

/-- **The document of lines one under the other.** -/
theorem document_entries (es : List (List Char × List Char)) (bound : Nat)
    (enough : es.length + 3 ≤ bound) :
    (document bound).run' { tokens := mappingTokens es } =
      some (some (.mapping {} (es.map entryNodes))) := by
  obtain ⟨n, rfl⟩ : ∃ m, bound = m + 1 := ⟨bound - 1, by omega⟩
  have directed : directives false (n + 1) { tokens := mappingTokens es } =
      some ((), { tokens := mappingTokens es }) := by
    rw [directives]
    rfl
  have rooted : root (n + 1) { tokens := mappingTokens es } =
      some (.mapping {} (es.map entryNodes), { tokens := [] }) := by
    have first := bind_of_eq (k := fun _ => node true false (n + 1)) directed
    rw [root]
    exact first.trans (node_mapping es n (by omega))
  have whole : document (n + 1) { tokens := mappingTokens es } =
      some (some (.mapping {} (es.map entryNodes)), { tokens := [] }) := by
    rw [document]
    exact bind_of_eq (k := fun root => do
      documentEnds (n + 1)
      if (← peek?).isSome then failure
      return some root) rooted
  rw [StateT.run', whole]
  rfl

end ReadM

theorem length_flatMap_entryTokens (es : List (List Char × List Char)) :
    (es.flatMap entryTokens).length = 4 * es.length := by
  induction es with
  | nil => rfl
  | cons e es ih =>
    rw [List.flatMap_cons, List.length_append, ih, List.length_cons]
    show 4 + 4 * es.length = _
    omega

/-- The document of lines one under the other. -/
theorem Node.ofText?_entries (e : List Char × List Char) (es : List (List Char × List Char))
    (named : ∀ entry ∈ e :: es, IsName entry.1) {text : List Char}
    (shape : text = entryText e (es.flatMap fun e => '\n' :: entryText e [])) :
    Node.ofText? text =
      if text.all isPrintable then
        ((e :: es).mapM readPair?).map fun read => some (.mapping {} (read.map entryNodes))
      else none := by
  rw [ofText?, Token.ofText?_entries e es named shape]
  by_cases printable : text.all isPrintable = true
  · rw [if_pos printable, if_pos printable]
    cases (e :: es).mapM readPair? with
    | none => rfl
    | some read =>
      have enough : read.length + 3 ≤ 4 * (mappingTokens read).length + 4 := by
        rw [mappingTokens, List.length_append, List.length_cons, length_flatMap_entryTokens]
        omega
      exact ReadM.document_entries read _ enough
  · rw [if_neg printable, if_neg printable]
    rfl

/-! ## Names -/

variable {name : List Char} {x : Char}

/-- One of the words for null and the truth values, in any case of its letters. -/
def IsReserved (name : List Char) : Prop :=
  name.map Char.toLower ∈ ["null".toList, "true".toList, "false".toList]

instance (name : List Char) : Decidable (IsReserved name) :=
  inferInstanceAs (Decidable (_ ∈ _))

theorem isDigit_eq_false_of_isAlpha (letter : x.isAlpha = true) : x.isDigit = false := by
  rw [Bool.eq_false_iff]
  intro digit
  have letters := toNat_of_isAlpha letter
  have digits := toNat_of_isDigit digit
  omega

/-- A letter is no digit of base ten. -/
theorem digit?_ten_of_isAlpha (letter : x.isAlpha = true) : digit? 10 x = none := by
  rw [digit?, hexValue?, isDigit_eq_false_of_isAlpha letter, if_neg Bool.false_ne_true]
  split
  · rw [Option.filter_some, if_neg (by simp)]
  · split
    · rw [Option.filter_some, if_neg (by simp)]
    · rfl

/-- What starts with a letter spells no integer. -/
theorem readInteger?_of_isAlpha (letter : x.isAlpha = true) (t : List Char) :
    readInteger? (x :: t) = none := by
  have unsigned : unsigned? (x :: t) = none := by
    unfold unsigned?
    split
    case h_5 =>
      rw [numeral?, if_neg (by simp), List.foldlM_cons, digit?_ten_of_isAlpha letter]
      rfl
    all_goals
      rename_i same
      cases same
      cases letter
  unfold readInteger?
  split
  · rename_i same
    cases same
    cases letter
  · rename_i same
    cases same
    cases letter
  · rw [unsigned]
    rfl

theorem readMantissa_of_isAlpha (letter : x.isAlpha = true) (t : List Char) :
    Binary64.readMantissa (x :: t) = none := by
  have digit : ¬ x.isDigit = true := by
    rw [isDigit_eq_false_of_isAlpha letter]
    exact Bool.false_ne_true
  rw [Binary64.readMantissa]
  dsimp only
  rw [List.takeWhile_cons_of_neg digit, List.dropWhile_cons_of_neg digit]
  split
  · rename_i same
    cases same
    cases letter
  · rfl

/-- What starts with a letter may spell an infinity, but no number. -/
theorem readDouble?_of_isAlpha (letter : x.isAlpha = true) (t : List Char) :
    readDouble? (x :: t) = none := by
  have unlisted (words : List String)
      (signs : ∀ word ∈ words, word.toList.head?.all (!·.isAlpha) = true) :
      words.contains (String.ofList (x :: t)) = false := by
    rw [Bool.eq_false_iff]
    intro listed
    have sign := signs _ (List.contains_iff_mem.1 listed)
    simp [letter] at sign
  have text : Binary64.ofText? (x :: t) = Binary64.readUnsigned false (x :: t) := by
    unfold Binary64.ofText?
    split
    · rename_i same
      cases same
      cases letter
    · rename_i same
      cases same
      cases letter
    · rfl
  have infinite : (Binary64.readUnsigned false (x :: t)).filter Binary64.isFinite = none := by
    rw [Binary64.readUnsigned]
    dsimp only
    split
    · rfl
    · split
      · rfl
      · rw [readMantissa_of_isAlpha letter]
        rfl
  rw [readDouble?, text, infinite]
  rw [unlisted _ (by decide), unlisted _ (by decide), unlisted _ (by decide)]
  rfl

/-- **A name that is not reserved is a text.** -/
theorem plainValue?_name (named : IsName name) (free : ¬ IsReserved name) :
    plainValue? name = some (.string (String.ofList name)) := by
  have unlisted (words : List String)
      (lower : ∀ word ∈ words, word = "~" ∨ IsReserved word.toList) :
      words.contains (String.ofList name) = false := by
    rw [Bool.eq_false_iff]
    intro listed
    rcases lower _ (List.contains_iff_mem.1 listed) with tilde | reserved
    · obtain ⟨x, t, rfl, letter, -⟩ := named
      have first := congrArg String.toList tilde
      rw [String.toList_ofList] at first
      cases first
      cases letter
    · rw [String.toList_ofList] at reserved
      exact free reserved
  have null : isNullText name = false := unlisted _ (by decide)
  have truth : readBool? name = none := by
    rw [readBool?, unlisted _ (by decide), unlisted _ (by decide)]
    rfl
  obtain ⟨x, t, rfl, letter, -⟩ := named
  have padded : isPadded (x :: t) = false := by
    unfold isPadded
    split
    case h_4 => rfl
    all_goals
      rename_i same
      cases same
      cases letter
  rw [plainValue?, null, truth, readBounded?, readInteger?_of_isAlpha letter, padded,
    readDouble?_of_isAlpha letter]
  rfl

/-! ## Values -/

/-- The member of a name and a text. -/
def entryMember (e : List Char × List Char) : String × Json :=
  (String.ofList e.1, .string (String.ofList e.2))

theorem allDistinct_texts {names : List (List Char)} (distinct : names.Nodup) :
    allDistinct (names.map fun name => .string (String.ofList name)) = true := by
  induction names with
  | nil => rfl
  | cons name names ih =>
    obtain ⟨fresh, later⟩ := List.nodup_cons.1 distinct
    rw [List.map_cons, allDistinct, ih later, Bool.and_true, List.all_eq_true]
    intro v member
    obtain ⟨other, among, rfl⟩ := List.mem_map.1 member
    have differs : name ≠ other := by
      rintro rfl
      exact fresh among
    simp [Json.same, differs, String.ofList_inj]

/-- Names of their own are the keys of an object. -/
theorem objectOf?_texts {es : List (List Char × List Char)} (distinct : (es.map Prod.fst).Nodup) :
    objectOf? (es.map fun e => (.string (String.ofList e.1), .string (String.ofList e.2))) =
      some (Json.ofMembers (es.map entryMember)) := by
  have keys : allDistinct ((es.map fun e =>
      (Json.string (String.ofList e.1), Json.string (String.ofList e.2))).map Prod.fst) = true := by
    have shape := allDistinct_texts distinct
    rwa [List.map_map] at shape ⊢
  have members : (es.map fun e =>
      (Json.string (String.ofList e.1), Json.string (String.ofList e.2))).mapM
        (fun m => (keyText? m.1).map (·, m.2)) = some (es.map entryMember) := by
    rw [List.mapM_map]
    exact List.mapM_pure
  rw [objectOf?, keys, members]
  rfl

namespace Document

variable (d : Document)

theorem key_name (named : IsName name) (free : ¬ IsReserved name) :
    d.key false (.scalar {} name true) = pure (.string (String.ofList name)) := by
  show StateT.lift (plainValue? name) = _
  rw [plainValue?_name named free]
  rfl

theorem value_text (bound : Nat) (text : List Char) :
    d.value bound (.scalar {} text false) = pure (.string (String.ofList text)) := by
  cases bound with
  | zero =>
    rw [value]
    rfl
  | succ bound =>
    rw [value]
    rfl

/-- The value of a mapping of names and texts. -/
theorem value_mapping (bound : Nat) {es : List (List Char × List Char)}
    (named : ∀ e ∈ es, IsName e.1 ∧ ¬ IsReserved e.1) (distinct : (es.map Prod.fst).Nodup) :
    d.value (bound + 1) (.mapping {} (es.map entryNodes)) =
      pure (Json.ofMembers (es.map entryMember)) := by
  have pairs : (es.map entryNodes).mapM (fun p => do
      let key ← d.key false p.1
      return (key, ← d.value bound p.2)) =
      pure (es.map fun e =>
        (Json.string (String.ofList e.1), Json.string (String.ofList e.2))) := by
    clear distinct
    induction es with
    | nil => rfl
    | cons e es ih =>
      obtain ⟨first, later⟩ := List.forall_mem_cons.1 named
      rw [List.map_cons, List.mapM_cons, ih later]
      show (do
        let key ← d.key false (.scalar {} e.1 true)
        return (key, ← d.value bound (.scalar {} e.2 false))) >>= _ = _
      rw [key_name d first.1 first.2, value_text]
      rfl
  have object : d.value (bound + 1) (.mapping {} (es.map entryNodes)) = (do
      let pairs ← (es.map entryNodes).mapM fun p => do
        let key ← d.key false p.1
        return (key, ← d.value bound p.2)
      return underTag none (← StateT.lift (objectOf? pairs))) := by
    rw [value]
    rfl
  rw [object, pairs]
  show (StateT.lift (objectOf? _) >>= _ : FollowM Json) = _
  rw [objectOf?_texts distinct]
  rfl

end Document

theorem mapM_eq_some_iff {α β : Type} {f : α → Option β} {l : List α} {read : List β} :
    l.mapM f = some read ↔ List.Forall₂ (fun a b => f a = some b) l read := by
  induction l generalizing read with
  | nil =>
    rw [List.mapM_nil, List.forall₂_nil_left_iff]
    exact Option.some_inj.trans eq_comm
  | cons a l ih =>
    rw [List.mapM_cons, List.forall₂_cons_left_iff]
    constructor
    · intro each
      obtain ⟨b, first, rest⟩ := Option.bind_eq_some_iff.1 each
      obtain ⟨bs, later, same⟩ := Option.bind_eq_some_iff.1 rest
      exact ⟨b, bs, first, ih.1 later, (Option.some.inj same).symm⟩
    · rintro ⟨b, bs, first, later, rfl⟩
      rw [first, ih.2 later]
      rfl

theorem readPair?_name {e r : List Char × List Char} (read : readPair? e = some r) :
    r.1 = e.1 := by
  rw [Scan.readPair?] at read
  split at read
  · obtain ⟨w, -, rfl⟩ := Option.map_eq_some_iff.1 read
    rfl
  · cases read

/-- Lines that are read keep their names. -/
theorem names_of_forall₂ {f : List Char × List Char → Option (List Char × List Char)}
    (keeps : ∀ {e r}, f e = some r → r.1 = e.1) {es read : List (List Char × List Char)}
    (each : List.Forall₂ (fun e r => f e = some r) es read) :
    read.map Prod.fst = es.map Prod.fst := by
  induction each with
  | nil => rfl
  | cons first _ ih => rw [List.map_cons, List.map_cons, ih, keeps first]

/-- **The value of lines one under the other.** -/
theorem read?_entries (e : List Char × List Char) (es : List (List Char × List Char))
    (named : ∀ entry ∈ e :: es, IsName entry.1 ∧ ¬ IsReserved entry.1)
    (distinct : ((e :: es).map Prod.fst).Nodup) {text : List Char}
    (shape : text = entryText e (es.flatMap fun e => '\n' :: entryText e [])) :
    read? text =
      if text.all isPrintable then
        ((e :: es).mapM readPair?).map fun read => Json.ofMembers (read.map entryMember)
      else none := by
  rw [read?, Node.ofText?_entries e es (fun entry member => (named entry member).1) shape]
  by_cases printable : text.all isPrintable = true
  · rw [if_pos printable, if_pos printable]
    cases each : (e :: es).mapM readPair? with
    | none => rfl
    | some read =>
      have names := names_of_forall₂ readPair?_name (mapM_eq_some_iff.1 each)
      have sound : ∀ entry ∈ read, IsName entry.1 ∧ ¬ IsReserved entry.1 := by
        intro entry member
        have among : entry.1 ∈ (e :: es).map Prod.fst := by
          rw [← names]
          exact List.mem_map_of_mem member
        obtain ⟨other, there, same⟩ := List.mem_map.1 among
        rw [← same]
        exact named other there
      rw [← names] at distinct
      dsimp only [Option.map_some]
      rw [StateT.run', Document.ofNode, nestingLimit,
        Document.value_mapping _ 127 sound distinct]
      rfl
  · rw [if_neg printable, if_neg printable]

end Formulary.Yaml
