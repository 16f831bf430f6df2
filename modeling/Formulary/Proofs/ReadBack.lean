import Formulary.Proofs.Layout
import Formulary.Proofs.Mapping
import Formulary.Proofs.Unfolded
import Formulary.Vault.FrontMatter
import Mathlib.Data.List.Nodup
import Mathlib.Data.List.TakeWhile

/-!
# Texts that front matter gives back

Fields of the quoted kinds under names of their own are written as lines that a note's reader finds
again, one by one (`ofNote_frontMatter`). Whether each text comes back as it was depends on the line
ends and blanks in it: of these only the line feed is written as an escape.

* `readsBack_iff`: which texts, under which names, come back from front matter.
* `not_readsBack_torn`: a carriage return does not.
-/

namespace Formulary

/-! ## Members by their keys -/

namespace Members

variable {members written : Members} {key k : String} {value v : Json}

theorem get?_cons (key : String) (value : Json) (members : Members) (k : String) :
    get? ((key, value) :: members) k = if k = key then some value else members.get? k := by
  rw [get?, List.lookup_cons]
  split
  · rename_i same
    rw [if_pos (beq_iff_eq.1 same)]
  · rename_i other
    rw [if_neg (beq_eq_false_iff_ne.1 other), get?]

theorem get?_insert (key : String) (value : Json) (members : Members) (k : String) :
    (members.insert key value).get? k = if k = key then some value else members.get? k := by
  induction members with
  | nil => exact get?_cons key value [] k
  | cons m members ih =>
    obtain ⟨other, v⟩ := m
    rw [insert]
    split
    · rename_i found
      subst found
      rw [get?_cons, get?_cons]
      split
      · rfl
      · rfl
    · rename_i distinct
      split
      · exact get?_cons ..
      · rw [get?_cons, get?_cons, ih]
        by_cases same : k = key
        · subst same
          simp [distinct]
        · rw [if_neg same, if_neg same]

theorem get?_eq_some_iff (distinct : (members.map Prod.fst).Nodup) :
    members.get? k = some v ↔ (k, v) ∈ members := by
  induction members with
  | nil => exact iff_of_false nofun nofun
  | cons m members ih =>
    obtain ⟨key, value⟩ := m
    obtain ⟨fresh, later⟩ := List.nodup_cons.1 distinct
    rw [get?_cons, List.mem_cons, Prod.mk.injEq]
    by_cases same : k = key
    · subst same
      have absent : (k, v) ∉ members := fun member =>
        fresh (List.mem_map.2 ⟨(k, v), member, rfl⟩)
      simp [absent, eq_comm]
    · rw [if_neg same, ih later]
      exact ⟨Or.inr, fun either => either.resolve_left fun first => same first.1⟩

/-- The last of the written members with a key counts. -/
theorem get?_ofWritten (written : Members) (k : String) :
    (ofWritten written).get? k = get? written.reverse k := by
  have grown (init : Members) :
      (written.foldl (fun members m => members.insert m.1 m.2) init).get? k =
        (get? written.reverse k).or (init.get? k) := by
    induction written generalizing init with
    | nil => rfl
    | cons m written ih =>
      have last : get? [m] k = if k = m.1 then some m.2 else none := get?_cons m.1 m.2 [] k
      rw [List.foldl_cons, ih, get?_insert, List.reverse_cons]
      show _ = (List.lookup k (written.reverse ++ [m])).or _
      rw [List.lookup_append, Option.or_assoc]
      show _ = (get? written.reverse k).or ((get? [m] k).or _)
      rw [last]
      split
      · rfl
      · rfl
  exact (grown []).trans Option.or_none

/-- Of members with keys of their own, each is kept. -/
theorem get?_ofWritten_iff (distinct : (written.map Prod.fst).Nodup) :
    (ofWritten written).get? k = some v ↔ (k, v) ∈ written := by
  have reversed : (written.reverse.map Prod.fst).Nodup := by
    rw [List.map_reverse]
    exact List.nodup_reverse.2 distinct
  rw [get?_ofWritten, get?_eq_some_iff reversed, List.mem_reverse]

end Members

/-! ## Lines of a note -/

namespace FrontMatter

variable {line : List Char} {lines : List (List Char)}

theorem linesFrom_append (free : '\n' ∉ line) (start rest : List Char) :
    Text.linesFrom start (line ++ '\n' :: rest) =
      (Text.withoutReturn (line.reverse ++ start)).reverse :: Text.linesFrom [] rest := by
  induction line generalizing start with
  | nil => rfl
  | cons c line ih =>
    have other : c ≠ '\n' := fun same => free (same ▸ List.mem_cons_self)
    have later : '\n' ∉ line := fun member => free (List.mem_cons_of_mem _ member)
    rw [List.cons_append, Text.linesFrom, ih later, List.reverse_cons, List.append_assoc]
    · rfl
    · exact other

/-- The lines of a text are the ones that it was made of. -/
theorem lines_flatMap (free : ∀ line ∈ lines, '\n' ∉ line ∧ line.getLast? ≠ some '\r') :
    Text.lines (lines.flatMap (· ++ ['\n'])) = lines := by
  rw [Text.lines]
  induction lines with
  | nil => rfl
  | cons line lines ih =>
    obtain ⟨⟨feed, back⟩, later⟩ := List.forall_mem_cons.1 free
    have kept : Text.withoutReturn line.reverse = line.reverse := by
      unfold Text.withoutReturn
      split
      · rename_i ends
        refine absurd ?_ back
        rw [List.getLast?_eq_head?_reverse, ends]
        rfl
      · rfl
    have shape : (line :: lines).flatMap (· ++ ['\n']) =
        line ++ '\n' :: lines.flatMap (· ++ ['\n']) := by simp
    rw [shape, linesFrom_append feed, List.append_nil, kept, List.reverse_reverse, ih later]

theorem trimEnd_prefix (s : List Char) : Text.trimEnd s <+: s := by
  rw [Text.trimEnd, ← List.reverse_suffix, List.reverse_reverse]
  exact List.dropWhile_suffix _

/-- A line that starts with a letter is no fence. -/
theorem isFence_eq_false {c : Char} (letter : c.isAlpha = true) (line : List Char) :
    isFence (c :: line) = false := by
  rw [isFence, decide_eq_false_iff_not]
  intro fence
  have start := trimEnd_prefix (c :: line)
  rw [fence, List.cons_prefix_cons] at start
  rw [← start.1] at letter
  cases letter

theorem closedBlock?_append (inside : ∀ line ∈ lines, isFence line = false) :
    closedBlock? (lines ++ [Form.fence]) = some lines := by
  induction lines with
  | nil => rfl
  | cons line lines ih =>
    obtain ⟨first, later⟩ := List.forall_mem_cons.1 inside
    rw [List.cons_append, closedBlock?, first, if_neg Bool.false_ne_true, ih later]
    rfl

theorem join_newline (line : List Char) (lines : List (List Char)) :
    Text.join ['\n'] (line :: lines) = line ++ lines.flatMap ('\n' :: ·) := by
  rw [Text.join]
  induction lines generalizing line with
  | nil => simp [List.intercalate]
  | cons other lines ih =>
    rw [List.intercalate_cons_cons, ih, List.flatMap_cons]
    simp

/-- A text that starts with a letter is not blank. -/
theorem isEmpty_trim_eq_false {c : Char} (letter : Yaml.isNameChar c = true) (s : List Char) :
    (Text.trim (c :: s)).isEmpty = false := by
  have shown : Text.isBlank c = false := by
    obtain ⟨low, high⟩ := Yaml.toNat_of_isNameChar letter
    simp [Text.isBlank, Text.Runs.has, Text.blankRuns]
    omega
  have start : Text.trimStart (c :: s) = c :: s :=
    List.dropWhile_cons_of_neg (by rw [shown]; exact Bool.false_ne_true)
  rw [Text.trim, start, Text.trimEnd, List.isEmpty_eq_false_iff, ne_eq, List.reverse_eq_nil_iff,
    List.dropWhile_eq_nil_iff]
  intro blank
  have absurd := blank c (by simp)
  rw [shown] at absurd
  cases absurd

end FrontMatter

/-! ## Printable texts -/

namespace Yaml

open Form (escapeQuoted)

theorem isPrintable_of_isNameChar {x : Char} (part : isNameChar x = true) :
    isPrintable x = true := by
  obtain ⟨low, high⟩ := toNat_of_isNameChar part
  simp [isPrintable]
  omega

theorem all_escapeQuoted (x : Char) : (escapeQuoted x).all isPrintable = isPrintable x := by
  unfold escapeQuoted
  split
  · rfl
  · rfl
  · rfl
  · simp

theorem all_entryText {e : List Char × List Char} (named : IsName e.1) (r : List Char) :
    (Scan.entryText e r).all isPrintable = (e.2.all isPrintable && r.all isPrintable) := by
  have name : e.1.all isPrintable = true := by
    rw [List.all_eq_true]
    exact fun x member => isPrintable_of_isNameChar (named.forall_isNameChar x member)
  have marks : isPrintable ':' = true ∧ isPrintable ' ' = true ∧ isPrintable '"' = true := by decide
  have text : (e.2.flatMap escapeQuoted).all isPrintable = e.2.all isPrintable := by
    rw [List.all_flatMap]
    simp only [all_escapeQuoted]
  rw [Scan.entryText, quotedRest]
  simp only [List.all_append, List.all_cons, name, text, marks, Bool.true_and]

/-- What the line of a name and a text is read as, if none of its characters is forbidden. -/
def readLine? (e : List Char × List Char) : Option (List Char × List Char) :=
  if e.2.all isPrintable then Scan.readPair? e else none

theorem readLine?_name {e r : List Char × List Char} (read : readLine? e = some r) :
    r.1 = e.1 := by
  rw [readLine?] at read
  split at read
  · exact readPair?_name read
  · cases read

/-- **Which lines are read as what they were written for.** -/
theorem readLine?_eq_self_iff {e : List Char × List Char} :
    readLine? e = some e ↔
      e.1.length ≤ 1024 ∧ (∀ c ∈ e.2, isPrintable c = true) ∧ Unfolded e.2 := by
  obtain ⟨name, text⟩ := e
  rw [readLine?, Scan.readPair?, ← List.all_eq_true, ← reread?_eq_self_iff]
  dsimp only
  constructor
  · intro read
    split at read
    · rename_i printable
      split at read
      · rename_i short
        obtain ⟨w, kept, same⟩ := Option.map_eq_some_iff.1 read
        cases same
        exact ⟨short, printable, kept⟩
      · cases read
    · cases read
  · rintro ⟨short, printable, kept⟩
    rw [if_pos printable, if_pos short, kept]
    rfl

theorem mapM_readLine? (es : List (List Char × List Char)) :
    es.mapM readLine? =
      if es.all (fun e => e.2.all isPrintable) then es.mapM Scan.readPair? else none := by
  induction es with
  | nil => rfl
  | cons e es ih =>
    rw [List.mapM_cons, List.mapM_cons, ih, readLine?, List.all_cons]
    by_cases first : e.2.all isPrintable = true
    · rw [if_pos first, first, Bool.true_and]
      split
      · rfl
      · cases Scan.readPair? e with
        | none => rfl
        | some read => rfl
    · rw [if_neg first, Bool.eq_false_iff.2 first]
      rfl

/-- **The value of lines one under the other, line by line.** -/
theorem read?_lines (e : List Char × List Char) (es : List (List Char × List Char))
    (named : ∀ entry ∈ e :: es, IsName entry.1 ∧ ¬ IsReserved entry.1)
    (distinct : ((e :: es).map Prod.fst).Nodup) :
    read? (Scan.entryText e (es.flatMap fun e => '\n' :: Scan.entryText e [])) =
      ((e :: es).mapM readLine?).map fun read => Json.ofMembers (read.map entryMember) := by
  obtain ⟨first, later⟩ := List.forall_mem_cons.1 named
  have printable : (Scan.entryText e (es.flatMap fun e => '\n' :: Scan.entryText e [])).all
      isPrintable = (e :: es).all fun e => e.2.all isPrintable := by
    rw [all_entryText first.1, List.all_cons, List.all_flatMap]
    congr 1
    clear named distinct first
    induction es with
    | nil => rfl
    | cons e es ih =>
      obtain ⟨first, later⟩ := List.forall_mem_cons.1 later
      rw [List.all_cons, List.all_cons, ih later, List.all_cons, all_entryText first.1,
        List.all_nil, Bool.and_true]
      rfl
  rw [read?_entries e es named distinct rfl, mapM_readLine?, printable]
  split
  · rfl
  · rfl

end Yaml

/-! ## Front matter -/

namespace Form

open Yaml FrontMatter

variable {data : List FieldData}

/-- The name and the text of the line of a field. -/
def FieldData.entry (d : FieldData) : List Char × List Char := (d.id.toList, d.value.toList)

/-- Fields with texts in quotes, each under a name of its own that is not reserved. -/
structure TextFields (data : List FieldData) : Prop where
  quoted : ∀ d ∈ data, d.kind.isQuoted = true
  distinct : (data.map FieldData.id).Nodup
  named : ∀ d ∈ data, IsName d.id.toList ∧ ¬ IsReserved d.id.toList

theorem line_eq_entryText {d : FieldData} (quoted : d.kind.isQuoted = true) :
    d.line = Scan.entryText d.entry [] := by
  rw [FieldData.line, if_pos quoted]
  simp [Scan.entryText, quoteValue, quotedRest, FieldData.entry]

/-- A line in quotes is one line for a reader of lines. -/
theorem line_whole {d : FieldData} (quoted : d.kind.isQuoted = true)
    (named : IsName d.id.toList) : '\n' ∉ d.line ∧ d.line.getLast? ≠ some '\r' := by
  constructor
  · have absent : '\n' ∉ d.id.toList := fun member => by
      cases named.forall_isNameChar _ member
    rw [mem_line_iff (by decide) absent]
    exact fun spilled => spilled.2 ⟨quoted, rfl⟩
  · rw [FieldData.line, if_pos quoted, quoteValue, ← List.append_assoc, List.getLast?_concat]
    decide

theorem join_lines {d : FieldData} (quoted : ∀ field ∈ d :: data, field.kind.isQuoted = true) :
    Text.join ['\n'] ((d :: data).map FieldData.line) =
      Scan.entryText d.entry
        ((data.map FieldData.entry).flatMap fun e => '\n' :: Scan.entryText e []) := by
  obtain ⟨first, later⟩ := List.forall_mem_cons.1 quoted
  have lines : data.map FieldData.line =
      (data.map FieldData.entry).map fun e => Scan.entryText e [] := by
    rw [List.map_map]
    exact List.map_congr_left fun field member => line_eq_entryText (later field member)
  rw [List.map_cons, join_newline, Scan.entryText_append, line_eq_entryText first, lines,
    List.flatMap_map]

/-- The block of at least one line is the object of its lines. -/
theorem ofBlock_lines {d : FieldData} (fields : TextFields (d :: data)) :
    ofBlock (Text.join ['\n'] ((d :: data).map FieldData.line)) =
      (((d :: data).map FieldData.entry).mapM readLine?).elim (.error .malformed)
        fun read => .ok (Members.ofWritten (read.map entryMember)) := by
  have named : ∀ e ∈ (d :: data).map FieldData.entry, IsName e.1 ∧ ¬ IsReserved e.1 :=
    List.forall_mem_map.2 fields.named
  have distinct : (((d :: data).map FieldData.entry).map Prod.fst).Nodup := by
    have names := fields.distinct.map (f := String.toList) fun a b same => String.toList_inj.1 same
    rw [List.map_map] at names ⊢
    exact names
  have filled : (Text.trim (Text.join ['\n'] ((d :: data).map FieldData.line))).isEmpty =
      false := by
    obtain ⟨x, t, first, letter, -⟩ := (fields.named d List.mem_cons_self).1
    rw [join_lines fields.quoted, Scan.entryText, FieldData.entry, first]
    exact isEmpty_trim_eq_false (isNameChar_of_isAlpha letter) _
  rw [ofBlock, filled, if_neg Bool.false_ne_true, join_lines fields.quoted,
    read?_lines _ _ named distinct, ← List.map_cons]
  cases ((d :: data).map FieldData.entry).mapM readLine? with
  | none => rfl
  | some read => rfl

/-- **Front matter is read line by line.** -/
theorem ofNote_frontMatter (fields : TextFields data) :
    ofNote (frontMatter data).toList =
      ((data.map FieldData.entry).mapM readLine?).elim (.error .malformed)
        fun read => .ok (Members.ofWritten (read.map entryMember)) := by
  have lines : Text.lines (withoutMark (frontMatter data).toList) =
      fence :: data.map FieldData.line ++ [fence] := by
    rw [frontMatter, String.toList_ofList]
    show Text.lines ((fence :: data.map FieldData.line ++ [fence]).flatMap (· ++ ['\n'])) = _
    have bars : '\n' ∉ fence ∧ fence.getLast? ≠ some '\r' := by decide
    refine lines_flatMap (List.forall_mem_append.2 ⟨?_, ?_⟩)
    · refine List.forall_mem_cons.2 ⟨bars, List.forall_mem_map.2 fun d member => ?_⟩
      exact line_whole (fields.quoted d member) (fields.named d member).1
    · exact List.forall_mem_singleton.2 bars
  have block : closedBlock? (data.map FieldData.line ++ [fence]) =
      some (data.map FieldData.line) := by
    refine closedBlock?_append fun line member => ?_
    obtain ⟨d, among, rfl⟩ := List.mem_map.1 member
    obtain ⟨x, t, first, letter, -⟩ := (fields.named d among).1
    rw [FieldData.line, first]
    exact isFence_eq_false letter _
  have opens : isFence fence = true := by decide
  rw [ofNote, lines, List.cons_append]
  dsimp only
  rw [if_pos opens, block]
  dsimp only
  cases data with
  | nil => rfl
  | cons d data => exact ofBlock_lines fields

theorem exists_of_forall₂ {α β : Type} {R : α → β → Prop} {l : List α} {l' : List β} {a : α}
    (each : List.Forall₂ R l l') (member : a ∈ l) : ∃ b ∈ l', R a b := by
  induction each with
  | nil => cases member
  | cons first _ ih =>
    rcases List.mem_cons.1 member with rfl | among
    · exact ⟨_, List.mem_cons_self, first⟩
    · obtain ⟨b, there, found⟩ := ih among
      exact ⟨b, List.mem_cons_of_mem _ there, found⟩

/-- Lines that keep their names are members with keys of their own. -/
theorem TextFields.nodup_keys (fields : TextFields data) {es : List (List Char × List Char)}
    (names : es.map Prod.fst = (data.map FieldData.entry).map Prod.fst) :
    ((es.map entryMember).map Prod.fst).Nodup := by
  have own : (es.map entryMember).map Prod.fst = (es.map Prod.fst).map String.ofList := by
    rw [List.map_map, List.map_map]
    rfl
  have ids : ((data.map FieldData.entry).map Prod.fst).map String.ofList =
      data.map FieldData.id := by
    rw [List.map_map, List.map_map]
    exact List.map_congr_left fun d _ => String.ofList_toList
  rw [own, names, ids]
  exact fields.distinct

/-- **Which texts are read back from front matter.** -/
theorem readsBack_iff (fields : TextFields data) :
    (∃ members, ofNote (frontMatter data).toList = .ok members ∧
      ∀ id v, members.get? id = some v ↔ ∃ d ∈ data, d.id = id ∧ Json.string d.value = v) ↔
      ∀ d ∈ data, d.id.toList.length ≤ 1024 ∧ (∀ c ∈ d.value.toList, isPrintable c = true) ∧
        Unfolded d.value.toList := by
  have line (d : FieldData) : readLine? d.entry = some d.entry ↔ d.id.toList.length ≤ 1024 ∧
      (∀ c ∈ d.value.toList, isPrintable c = true) ∧ Unfolded d.value.toList :=
    readLine?_eq_self_iff
  simp only [← line]
  rw [ofNote_frontMatter fields]
  constructor
  · -- What is read under the name of a field comes from its own line.
    rintro ⟨members, ran, kept⟩ d member
    cases each : (data.map FieldData.entry).mapM readLine? with
    | none =>
      rw [each] at ran
      cases ran
    | some read =>
      rw [each] at ran
      cases ran
      have lines := mapM_eq_some_iff.1 each
      obtain ⟨r, among, found⟩ := exists_of_forall₂ lines (List.mem_map_of_mem member)
      have name : r.1 = d.id.toList := readLine?_name found
      have own := (kept d.id (.string d.value)).2 ⟨d, member, rfl, rfl⟩
      have shown : Members.get? (Members.ofWritten (read.map entryMember)) d.id =
          some (.string (String.ofList r.2)) := by
        rw [Members.get?_ofWritten_iff (fields.nodup_keys (names_of_forall₂ readLine?_name lines))]
        refine List.mem_map.2 ⟨r, among, ?_⟩
        rw [entryMember, name, String.ofList_toList]
      have text : r.2 = d.value.toList := by
        rw [shown, Option.some_inj, Json.string.injEq] at own
        rw [← own, String.toList_ofList]
      rw [found]
      exact congrArg some (Prod.ext name text)
  · intro each
    have whole : (data.map FieldData.entry).mapM readLine? = some (data.map FieldData.entry) := by
      rw [mapM_eq_some_iff, List.forall₂_same]
      exact List.forall_mem_map.2 each
    rw [whole]
    refine ⟨_, rfl, fun id v => ?_⟩
    rw [Members.get?_ofWritten_iff (fields.nodup_keys rfl), List.map_map, List.mem_map]
    have shape (d : FieldData) : entryMember d.entry = (d.id, .string d.value) := by
      rw [entryMember, FieldData.entry, String.ofList_toList, String.ofList_toList]
    simp only [Function.comp_apply, shape, Prod.mk.injEq]

/-- A title with quotes and a backslash, and a text with a line of dashes. -/
def memo : List FieldData :=
  [⟨"title", .text, "Say \"hi\" \\n"⟩, ⟨"body", .textarea, "one\n---\ntwo"⟩]

theorem readsBack_memo : TextFields memo ∧
    ∃ members, ofNote (frontMatter memo).toList = .ok members ∧
      ∀ id v, members.get? id = some v ↔ ∃ d ∈ memo, d.id = id ∧ Json.string d.value = v := by
  have fields : TextFields memo := ⟨by decide, by decide, by decide⟩
  exact ⟨fields, (readsBack_iff fields).2 (by decide +kernel)⟩

/-- A text with a carriage return. -/
def torn : List FieldData := [⟨"note", .text, "a\rb"⟩]

/-- The carriage return is written as it is, and read as a space. -/
theorem not_readsBack_torn : TextFields torn ∧
    ¬ ∃ members, ofNote (frontMatter torn).toList = .ok members ∧
      ∀ d ∈ torn, members.get? d.id = some (.string d.value) := by
  have fields : TextFields torn := ⟨by decide, by decide, by decide⟩
  have read : (torn.map FieldData.entry).mapM readLine? =
      some [("note".toList, "a b".toList)] := by
    decide +kernel
  refine ⟨fields, ?_⟩
  rintro ⟨members, ran, kept⟩
  rw [ofNote_frontMatter fields, read] at ran
  cases ran
  have shown : some (Json.string (String.ofList "a b".toList)) = some (.string "a\rb") :=
    kept _ List.mem_cons_self
  have same := congrArg String.toList (Json.string.inj (Option.some.inj shown))
  exact absurd same (by decide)

end Form

end Formulary
