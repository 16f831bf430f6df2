import Formulary.Proofs.Additions
import Mathlib.Data.List.Basic
import Mathlib.Data.List.Infix
import Mathlib.Logic.Function.Basic

/-!
# A vault is left by one path only

Whatever the paths are that a vault is asked with, its locations are the vault's own with plain
names after them. A computation is confined to a vault if that is all it touches, if it only adds
entries where nothing stands, and if it does the same on all trees that are alike in the vault and
have folders in the same places on the way to it. The operations on files are confined at such
locations, and so is what is put together from them.

The one exception is a note at the path of the vault itself. The check of the path lets it through,
and the folder that the vault is in is made before the note is refused.

* `confined_append_only`: calls touch nothing outside of the vault but the folder above it, and that
  if and only if one of them is to add a note at the vault's own path. They read and change no file
  outside, and leave every entry as it is. A note that is refused changes no file; one whose text is
  torn is there with a part of it.
-/

namespace Formulary

/-! ## Names on a path -/

namespace Text

theorem not_mem_of_mem_splitFrom {c : Char} {piece part s : List Char} (clean : c ∉ piece)
    (among : part ∈ splitFrom [c] piece 0 s) : c ∉ part := by
  induction s generalizing piece with
  | nil =>
    rw [List.mem_singleton.1 among, List.mem_reverse]
    exact clean
  | cons d s ih =>
    unfold splitFrom at among
    dsimp only at among
    split at among
    · rcases List.mem_cons.1 among with rfl | among
      · rw [List.mem_reverse]
        exact clean
      · exact ih List.not_mem_nil among
    · rename_i other
      refine ih (fun inside => ?_) among
      rcases List.mem_cons.1 inside with rfl | inside
      · exact other (by simp)
      · exact clean inside

/-- The pieces around the occurrences of a character do not have it. -/
theorem not_mem_of_mem_splitOn {c : Char} {part s : List Char} (among : part ∈ splitOn [c] s) :
    c ∉ part :=
  not_mem_of_mem_splitFrom List.not_mem_nil among

end Text

/-! ## What stands at a location -/

/-- The text of a file. -/
def Entry.text? : Entry → Option String
  | .file text => some text
  | .folder => none

namespace FileTree

variable {t t' : FileTree} {l : Location}

/-- The text of the file at a location. -/
def text? (t : FileTree) (l : Location) : Option String := (t.at? l).bind Entry.text?

theorem lookup_filter {α β : Type} [BEq α] [LawfulBEq α] {p : α → Bool} {key : α}
    (kept : p key = true) (entries : List (α × β)) :
    (entries.filter (p ·.1)).lookup key = entries.lookup key := by
  induction entries with
  | nil => rfl
  | cons entry entries ih =>
    obtain ⟨k, value⟩ := entry
    by_cases same : key = k
    · subst same
      have first : ((key, value) :: entries).filter (p ·.1) =
          (key, value) :: entries.filter (p ·.1) :=
        List.filter_cons_of_pos kept
      rw [first, List.lookup_cons_self, List.lookup_cons_self]
    · have other : (key == k) = false := beq_false_of_ne same
      rw [List.lookup_cons, other, List.filter_cons]
      split
      · rw [List.lookup_cons, other]
        exact ih
      · exact ih

theorem eq_append_of_nameIn? {folder : Location} {name : String}
    (named : nameIn? folder l = some name) : l = folder ++ [name] := by
  induction folder generalizing l with
  | nil =>
    unfold nameIn? at named
    split at named
    · cases named
      rfl
    · contradiction
    · cases named
  | cons n folder ih =>
    unfold nameIn? at named
    split at named
    · contradiction
    · rename_i shape
      cases shape
      split at named
      · rename_i same
        rw [same, ih named]
        rfl
      · cases named
    · cases named

/-- What was there before comes first. -/
theorem at?_append {added : List (Location × Entry)} (shape : t'.entries = t.entries ++ added)
    (l : Location) : t'.at? l = (t.at? l).or (added.lookup l) := by
  unfold at?
  split
  · rfl
  · rw [shape, List.lookup_append]

theorem text?_grown (grown : t.Grown t') : t'.text? = t.text? := by
  obtain ⟨added, shape, folders⟩ := grown
  funext l
  unfold text?
  rw [at?_append shape]
  cases t.at? l with
  | some entry => rfl
  | none =>
    cases found : added.lookup l with
    | none => rfl
    | some entry =>
      obtain ⟨_, _, same, -⟩ := List.lookup_eq_some_iff.1 found
      have folder : entry = .folder := folders (l, entry) (same ▸ List.mem_append_cons_self)
      rw [folder]
      rfl

/-- A file is added where nothing stood. -/
theorem text?_append_file {text : String}
    (shape : t'.entries = t.entries ++ [(l, .file text)]) (free : t.at? l = none) :
    t'.text? = Function.update t.text? l (some text) := by
  funext l'
  unfold text?
  rw [at?_append shape]
  by_cases same : l' = l
  · subst same
    rw [Function.update_self, free, List.lookup_cons_self]
    rfl
  · have other : (l' == l) = false := beq_false_of_ne same
    rw [Function.update_of_ne same, List.lookup_cons, other]
    exact congrArg (·.bind Entry.text?) (Option.or_none)

end FileTree

namespace Vault

variable {v : Vault} {t t' : FileTree} {l : Location} {names : List String}

/-! ## Locations in a vault -/

/-- A name leads one folder down. -/
structure IsPlain (name : String) : Prop where
  filled : name ≠ ""
  idle : name ≠ "."
  parent : name ≠ ".."
  single : '/' ∉ name.toList

/-- The location is the vault's, with plain names after it. -/
def Inside (v : Vault) (l : Location) : Prop :=
  ∃ names, l = v.base ++ names ∧ ∀ n ∈ names, IsPlain n

/-- The names of a place are plain. -/
theorem isPlain_of_place? {path : List Char} {p : Place} (found : place? path = some p) :
    ∀ n ∈ p.names, IsPlain n := by
  unfold place? at found
  dsimp only at found
  split at found
  · cases found
  · rename_i inner
    cases found
    intro n among
    obtain ⟨name, kept, rfl⟩ := List.mem_map.1 among
    obtain ⟨piece, counts⟩ := List.mem_filter.1 kept
    simp only [Bool.and_eq_true, Bool.not_eq_true', bne_iff_ne] at counts
    obtain ⟨filled, idle⟩ := counts
    have ne_of_toList_ne {s : String} (differs : name ≠ s.toList) : String.ofList name ≠ s := by
      rintro rfl
      exact differs String.toList_ofList.symm
    refine ⟨ne_of_toList_ne ?_, ne_of_toList_ne idle, ne_of_toList_ne ?_, ?_⟩
    · rintro rfl
      cases filled
    · rintro rfl
      exact inner (List.contains_iff_mem.2 piece)
    · rw [String.toList_ofList]
      exact Text.not_mem_of_mem_splitOn piece

theorem Inside.below (inside : v.Inside l) : v.base.isPrefixOf l = true := by
  obtain ⟨names, rfl, -⟩ := inside
  exact List.isPrefixOf_iff_prefix.2 (List.prefix_append _ _)

/-- The location is in the vault, or on the way to it. -/
def Near (v : Vault) (l : Location) : Prop := v.Inside l ∨ l <+: v.base

/-- The way to what is near leads along what is near. -/
theorem Near.of_prefix (near : v.Near l) {l' : Location} (before : l' <+: l) : v.Near l' := by
  rcases near with ⟨names, rfl, plain⟩ | way
  · rcases List.prefix_or_prefix_of_prefix before (List.prefix_append v.base names) with
      way | ⟨names', rfl⟩
    · exact Or.inr way
    · have before := (List.prefix_append_right_inj v.base).1 before
      exact Or.inl ⟨names', rfl, fun n among => plain n (before.subset among)⟩
  · exact Or.inr (before.trans way)

/-- The trees have the same entries below the vault, and on the way to it folders in the same
places. -/
structure Alike (v : Vault) (t t' : FileTree) : Prop where
  below : t.entries.filter (v.base.isPrefixOf ·.1) = t'.entries.filter (v.base.isPrefixOf ·.1)
  way : ∀ l, l <+: v.base → (t.at? l).map Entry.isFolder = (t'.at? l).map Entry.isFolder

theorem Alike.refl (v : Vault) (t : FileTree) : v.Alike t t := ⟨rfl, fun _ _ => rfl⟩

theorem Alike.at? (alike : v.Alike t t') (inside : v.Inside l) : t.at? l = t'.at? l := by
  unfold FileTree.at?
  rw [← FileTree.lookup_filter inside.below t.entries, alike.below,
    FileTree.lookup_filter inside.below]

theorem Alike.isFolder (alike : v.Alike t t') (near : v.Near l) :
    (t.at? l).map Entry.isFolder = (t'.at? l).map Entry.isFolder :=
  near.elim (fun inside => congrArg _ (alike.at? inside)) (alike.way l)

theorem Alike.free_iff (alike : v.Alike t t') (near : v.Near l) :
    t.at? l = none ↔ t'.at? l = none := by
  have same := alike.isFolder near
  rw [← Option.map_eq_none_iff, same, Option.map_eq_none_iff]

theorem Alike.children (alike : v.Alike t t') (inside : v.Inside l) :
    t.children l = t'.children l := by
  have only (t : FileTree) :
      t.children l = { t with entries := t.entries.filter (v.base.isPrefixOf ·.1) }.children l := by
    unfold FileTree.children
    dsimp only
    rw [List.filterMap_filter]
    refine List.filterMap_congr fun e _ => ?_
    split
    · rfl
    · rename_i outside
      cases named : FileTree.nameIn? l e.1 with
      | none => rfl
      | some name =>
        have shape := FileTree.eq_append_of_nameIn? named
        refine absurd (List.isPrefixOf_iff_prefix.2 ?_) outside
        rw [shape]
        exact (List.isPrefixOf_iff_prefix.1 inside.below).trans (List.prefix_append _ _)
  rw [only t, only t']
  unfold FileTree.children
  dsimp only
  rw [alike.below]

theorem Alike.append (alike : v.Alike t t') (added : List (Location × Entry))
    (touched touched' : List Location) :
    v.Alike ⟨t.entries ++ added, touched⟩ ⟨t'.entries ++ added, touched'⟩ := by
  refine ⟨?_, fun l way => ?_⟩
  · dsimp only
    rw [List.filter_append, List.filter_append, alike.below]
  · have more (t : FileTree) (touched : List Location) :
        (FileTree.mk (t.entries ++ added) touched).at? l = (t.at? l).or (added.lookup l) :=
      FileTree.at?_append rfl l
    rw [more t, more t', Option.map_or, Option.map_or, alike.way l way]

/-! ## Confined computations -/

/-- On all trees that are alike a computation gives the same answer, and adds and touches the same.
It adds entries in the vault, or folders on the way to it, where nothing stood. It touches locations
in the vault, and if `above` holds the folder above it. -/
def Confined {α : Type} (v : Vault) (above : Prop) (m : FileM α) : Prop :=
  ∀ t, ∃ a added touched,
    (∀ l, ¬ v.Inside l → (l ∈ touched ↔ above ∧ l = v.base.dropLast)) ∧
    (∀ e ∈ added, (v.Inside e.1 ∨ e.1 <+: v.base ∧ e.2 = Entry.folder) ∧ t.at? e.1 = none) ∧
    ∀ t', v.Alike t t' → m.run t' = (a, ⟨t'.entries ++ added, t'.touched ++ touched⟩)

variable {above later : Prop}

/-- Nothing is touched. -/
theorem untouched (v : Vault) (l : Location) :
    l ∈ ([] : List Location) ↔ False ∧ l = v.base.dropLast :=
  iff_of_false List.not_mem_nil And.left

theorem Confined.pure {α : Type} (a : α) : v.Confined False (pure a) := by
  refine fun t => ⟨a, [], [], fun l _ => v.untouched l, List.forall_mem_nil _, fun t' _ => ?_⟩
  rw [List.append_nil, List.append_nil]
  rfl

theorem Confined.bind {α β : Type} {m : FileM α} {k : α → FileM β} (first : v.Confined above m)
    (second : ∀ a, v.Confined later (k a)) : v.Confined (above ∨ later) (m >>= k) := by
  intro t
  obtain ⟨a, added, touched, outside, fresh, ran⟩ := first t
  obtain ⟨b, added', touched', outside', fresh', ran'⟩ :=
    second a ⟨t.entries ++ added, t.touched ++ touched⟩
  refine ⟨b, added ++ added', touched ++ touched', fun l out => ?_, ?_, fun t' alike => ?_⟩
  · rw [List.mem_append, outside l out, outside' l out, or_and_right]
  · refine List.forall_mem_append.2 ⟨fresh, fun e among => ⟨(fresh' e among).1, ?_⟩⟩
    have free := (fresh' e among).2
    rw [FileTree.at?_append rfl] at free
    exact (Option.or_eq_none_iff.1 free).1
  · rw [StateT.run_bind, ran t' alike]
    show (k a).run _ = _
    rw [ran' _ (alike.append added _ _), List.append_assoc, List.append_assoc]

/-- What follows stays in the vault. -/
theorem Confined.andThen {α β : Type} {m : FileM α} {k : α → FileM β} (first : v.Confined above m)
    (second : ∀ a, v.Confined False (k a)) : v.Confined above (m >>= k) := by
  have both := first.bind second
  rwa [or_false] at both

theorem confined_touch (inside : v.Inside l) : v.Confined False (FileTree.touch l) := by
  refine fun t => ⟨(), [], [l], fun l' out => ?_, List.forall_mem_nil _, fun t' _ => ?_⟩
  · exact iff_of_false (fun among => out (List.mem_singleton.1 among ▸ inside)) And.left
  · rw [List.append_nil]
    rfl

theorem confined_touch_above (v : Vault) : v.Confined True (FileTree.touch v.base.dropLast) := by
  refine fun t => ⟨(), [], [v.base.dropLast], fun l out => ?_, List.forall_mem_nil _,
    fun t' _ => ?_⟩
  · rw [List.mem_singleton, true_and]
  · rw [List.append_nil]
    rfl

/-- What is the same on all trees that are alike can be read. -/
theorem confined_reading {α : Type} {f : FileTree → α}
    (same : ∀ t t', v.Alike t t' → f t = f t') : v.Confined False (do return f (← get)) := by
  refine fun t => ⟨f t, [], [], fun l _ => v.untouched l, List.forall_mem_nil _,
    fun t' alike => ?_⟩
  rw [List.append_nil, List.append_nil, same t t' alike]
  rfl

theorem confined_look (inside : v.Inside l) : v.Confined False (FileTree.look l) :=
  (confined_touch inside).andThen fun _ => confined_reading fun _ _ alike => alike.at? inside

theorem confined_list (inside : v.Inside l) : v.Confined False (FileTree.list l) :=
  (confined_touch inside).andThen fun _ => confined_reading fun _ _ alike => alike.children inside

theorem confined_folder? (near : v.Near l) : v.Confined False (FileTree.folder? l) :=
  confined_reading fun _ _ alike => alike.isFolder near

theorem confined_add {entry : Entry} (fits : v.Inside l ∨ l <+: v.base ∧ entry = .folder) :
    v.Confined False (FileTree.add l entry) := by
  intro t
  have near : v.Near l := fits.imp id And.left
  by_cases free : t.at? l = none ∧ l.getLast?.any FileTree.isUsable
  · refine ⟨true, [(l, entry)], [], fun l' _ => v.untouched l',
      List.forall_mem_singleton.2 ⟨fits, free.1⟩, fun t' alike => ?_⟩
    rw [FileTree.run_add, if_pos (free.imp_left (alike.free_iff near).1), List.append_nil]
  · refine ⟨false, [], [], fun l' _ => v.untouched l', List.forall_mem_nil _, fun t' alike => ?_⟩
    rw [FileTree.run_add, if_neg (mt (And.imp_left (alike.free_iff near).2) free),
      List.append_nil, List.append_nil]

theorem confined_put (inside : v.Inside l) (entry : Entry) :
    v.Confined False (FileTree.put l entry) :=
  (confined_touch inside).andThen fun _ => confined_add (Or.inl inside)

theorem confined_makeFolders (near : v.Near (l ++ names)) :
    v.Confined False (FileTree.makeFolders l names) := by
  induction names generalizing l with
  | nil => exact .pure _
  | cons name names ih =>
    have whole : l ++ name :: names = l ++ [name] ++ names := (List.append_assoc l [name] names).symm
    rw [whole] at near
    have next : v.Near (l ++ [name]) := near.of_prefix (List.prefix_append _ _)
    refine (confined_folder? next).andThen fun found => ?_
    match found with
    | none =>
      refine (confined_add (next.imp id fun way => ⟨way, rfl⟩)).andThen fun made => ?_
      cases made with
      | true => exact ih near
      | false => exact .pure _
    | some true => exact ih near
    | some false => exact .pure _

/-- What making a folder touches is the folder, whatever it is in. -/
theorem confined_makeFolder (handed : v.Confined above (FileTree.touch l)) (near : v.Near l) :
    v.Confined above (FileTree.makeFolder l) := by
  refine handed.andThen fun _ => ?_
  split
  · exact .pure _
  · exact confined_makeFolders near

/-! ## Calls -/

/-- Where the note of a path is. -/
def location? (v : Vault) (path : String) : Option Location :=
  (place? path.toList).map v.location

theorem inside_location {path : List Char} {p : Place} (found : place? path = some p) :
    v.Inside (v.location p) :=
  ⟨p.names, rfl, isPlain_of_place? found⟩

theorem confined_fileText? {path : List Char} {p : Place} (found : place? path = some p) :
    v.Confined False (v.fileText? p) := by
  refine (confined_look (inside_location found)).andThen fun entry => ?_
  match entry with
  | none => exact .pure _
  | some .folder => exact .pure _
  | some (.file text) => exact .pure _

theorem confined_find (v : Vault) (path : String) : v.Confined False (v.find path) := by
  unfold find
  split
  · exact .pure _
  · rename_i p found
    exact (confined_fileText? found).andThen fun text => .pure _

theorem confined_read (v : Vault) (path : String) : v.Confined False (v.read path) := by
  unfold read
  split
  · exact .pure _
  · rename_i p found
    refine (confined_fileText? found).andThen fun text => ?_
    cases text with
    | none => exact .pure _
    | some text =>
      dsimp only
      split <;> exact .pure _

theorem confined_listNames (v : Vault) (path : String) : v.Confined False (v.list path) := by
  unfold list
  split
  · exact .pure _
  · rename_i p found
    have inside : v.Inside (v.location p) := inside_location found
    refine (confined_look inside).andThen fun entry => ?_
    match entry with
    | none => exact .pure _
    | some (.file text) => exact .pure _
    | some .folder => exact (confined_list inside).andThen fun entries => .pure _

/-- The folder of a note is in the vault, but for a path without names. -/
theorem confined_folder {path : List Char} {p : Place} (found : place? path = some p) :
    v.Confined (p.names = []) (FileTree.makeFolder (v.location p).dropLast) := by
  have near : v.Near (v.location p) := Or.inl (inside_location found)
  by_cases named : p.names = []
  · have own : v.location p = v.base := by rw [location, named, List.append_nil]
    rw [eq_true named, own]
    exact confined_makeFolder v.confined_touch_above (Or.inr (List.dropLast_prefix _))
  · have inside : v.Inside (v.location p).dropLast := by
      refine ⟨p.names.dropLast, List.dropLast_append_of_ne_nil named, fun n among => ?_⟩
      exact isPlain_of_place? found n ((List.dropLast_sublist _).subset among)
    rw [eq_false named]
    exact confined_makeFolder (confined_touch inside) (Or.inl inside)

theorem confined_createOn (v : Vault) (writing : Writing) (path text : String) :
    v.Confined (v.location? path = some v.base) (v.createOn writing path text) := by
  unfold createOn location?
  split
  · rename_i outside
    rw [outside, Option.map_none, eq_false (nofun : none ≠ some v.base)]
    exact .pure _
  · rename_i p found
    have itself : (some p).map v.location = some v.base ↔ p.names = [] := by
      rw [Option.map_some, Option.some_inj, location, List.append_right_eq_self]
    rw [found, propext itself]
    refine (confined_folder found).andThen fun made => ?_
    cases made with
    | false => exact .pure _
    | true =>
      show v.Confined False (if p.asFolder then _ else _)
      split
      · exact (confined_touch (inside_location found)).andThen fun _ => .pure _
      · refine (confined_put (inside_location found) _).andThen fun fresh => ?_
        cases fresh with
        | true => exact .pure _
        | false => exact .pure _

/-- What a vault is asked to do. -/
inductive Call where
  | find (path : String)
  | read (path : String)
  | list (path : String)
  | create (writing : Writing) (path text : String)

/-- What it answers. -/
inductive Answer where
  | found (path : Option String)
  | front (outcome : Except ReadError Members)
  | names (names : Option (List String))
  | created (outcome : Except CreateError String)

def answer (v : Vault) : Call → FileM Answer
  | .find path => return .found (← v.find path)
  | .read path => return .front (← v.read path)
  | .list path => return .names (← v.list path)
  | .create writing path text => return .created (← v.createOn writing path text)

/-- The answers to calls, one after the other. -/
def answerAll (v : Vault) : List Call → FileM (List Answer)
  | [] => return []
  | call :: calls => return (← v.answer call) :: (← v.answerAll calls)

/-- The tree after calls. -/
def after (v : Vault) (calls : List Call) (t : FileTree) : FileTree :=
  ((v.answerAll calls).run t).2

/-- The call is to add a note at the path of the vault itself. -/
def AddsItself (v : Vault) : Call → Prop
  | .create _ path _ => v.location? path = some v.base
  | _ => False

theorem confined_answer (v : Vault) (call : Call) :
    v.Confined (v.AddsItself call) (v.answer call) := by
  cases call with
  | find path => exact (v.confined_find path).andThen fun _ => .pure _
  | read path => exact (v.confined_read path).andThen fun _ => .pure _
  | list path => exact (v.confined_listNames path).andThen fun _ => .pure _
  | create writing path text =>
    exact (v.confined_createOn writing path text).andThen fun _ => .pure _

theorem confined_answerAll (v : Vault) (calls : List Call) :
    v.Confined (∃ call ∈ calls, v.AddsItself call) (v.answerAll calls) := by
  induction calls with
  | nil =>
    have none : ¬ ∃ call ∈ ([] : List Call), v.AddsItself call :=
      fun ⟨_, among, _⟩ => List.not_mem_nil among
    rw [eq_false none]
    exact .pure _
  | cons call calls ih =>
    rw [propext (List.exists_mem_cons_iff _ _ _)]
    exact (v.confined_answer call).bind fun _ => ih.andThen fun _ => .pure _

/-! ## Adding a note -/

/-- A note that is refused leaves every file as it was. One that is not is a file where nothing
stood, with what the disk took of the text, and the other files are as they were. -/
theorem text?_createOn (v : Vault) (writing : Writing) (path text : String) (t : FileTree) :
    (∃ e, ((v.createOn writing path text).run t).1 = .error e ∧
      ((v.createOn writing path text).run t).2.text? = t.text?) ∨
    ∃ place l, ((v.createOn writing path text).run t).1 = writing.answer place ∧
      v.location? path = some l ∧ v.Inside l ∧ t.at? l = none ∧
      ((v.createOn writing path text).run t).2.text? =
        Function.update t.text? l (some (writing.kept text)) := by
  cases found : place? path.toList with
  | none =>
    unfold createOn
    rw [found]
    exact Or.inl ⟨_, rfl, rfl⟩
  | some p =>
    rw [run_createOn found]
    dsimp only
    have grown := FileTree.grown_makeFolder (v.location p).dropLast t
    generalize (FileTree.makeFolder (v.location p).dropLast).run t = made at grown ⊢
    have kept := FileTree.text?_grown grown
    split
    · exact Or.inl ⟨_, rfl, kept⟩
    · split
      · exact Or.inl ⟨_, rfl, kept⟩
      · rw [FileTree.run_put]
        split
        · rename_i free
          have free := free.1
          have added : (FileTree.mk (made.2.entries ++ [(v.location p, .file (writing.kept text))])
              (made.2.touched ++ [v.location p])).text? = _ :=
            FileTree.text?_append_file rfl free
          obtain ⟨folders, shape, -⟩ := grown
          rw [FileTree.at?_append shape] at free
          rw [kept] at added
          exact Or.inr ⟨_, v.location p, rfl, congrArg (·.map v.location) found,
            inside_location found, (Option.or_eq_none_iff.1 free).1, added⟩
        · exact Or.inl ⟨_, rfl, kept⟩

/-- A note that cannot be added leaves every file as it was; one that is added is a file where
nothing stood, and the other files are as they were. -/
theorem text?_create (v : Vault) (path text : String) (t : FileTree) :
    (∃ e, ((v.create path text).run t).1 = .error e ∧
      ((v.create path text).run t).2.text? = t.text?) ∨
    ∃ place l, ((v.create path text).run t).1 = .ok place ∧ v.location? path = some l ∧
      v.Inside l ∧ t.at? l = none ∧
      ((v.create path text).run t).2.text? = Function.update t.text? l (some text) :=
  v.text?_createOn .whole path text t

/-- **A vault is confined and append-only.** What calls touch is in the vault, but for the folder
above it when one of them is to add a note at the vault's own path. Outside of the vault nothing is
changed, but for folders on the way to it that are made if they are missing; no file there makes a
difference to the answers. What stands somewhere stays as it is. A note that is added is the only
file that is new, and one that is refused changes no file; if its text is torn it is there with what
the disk took. -/
theorem confined_append_only (v : Vault) (calls : List Call) (t : FileTree) :
    (∃ touched, (v.after calls t).touched = t.touched ++ touched ∧ ∀ l, ¬ v.Inside l →
      (l ∈ touched ↔ (∃ call ∈ calls, v.AddsItself call) ∧ l = v.base.dropLast)) ∧
    (∀ l, ¬ v.Inside l → (v.after calls t).at? l = t.at? l ∨
      l <+: v.base ∧ t.at? l = none ∧ (v.after calls t).at? l = some .folder) ∧
    (∀ t', v.Alike t t' → ((v.answerAll calls).run t').1 = ((v.answerAll calls).run t).1) ∧
    (∀ l entry, t.at? l = some entry → (v.after calls t).at? l = some entry) ∧
    ∀ writing path text,
      (∃ e, ((v.createOn writing path text).run (v.after calls t)).1 = .error e ∧
        ((v.createOn writing path text).run (v.after calls t)).2.text? =
          (v.after calls t).text?) ∨
      ∃ place l, ((v.createOn writing path text).run (v.after calls t)).1 =
          writing.answer place ∧
        v.location? path = some l ∧ v.Inside l ∧ (v.after calls t).at? l = none ∧
        ((v.createOn writing path text).run (v.after calls t)).2.text? =
          Function.update (v.after calls t).text? l (some (writing.kept text)) := by
  obtain ⟨answers, added, touched, outside, fresh, ran⟩ := v.confined_answerAll calls t
  have reached : v.after calls t = ⟨t.entries ++ added, t.touched ++ touched⟩ := by
    unfold after
    rw [ran t (.refl v t)]
  have grown (l : Location) : (v.after calls t).at? l = (t.at? l).or (added.lookup l) := by
    rw [reached, FileTree.at?_append rfl]
  refine ⟨⟨touched, by rw [reached], outside⟩, fun l out => ?_, fun t' alike => ?_,
    fun l entry stands => ?_, fun writing path text => v.text?_createOn writing path text _⟩
  · rw [grown]
    cases found : added.lookup l with
    | none => exact Or.inl Option.or_none
    | some entry =>
      obtain ⟨_, _, among, -⟩ := List.lookup_eq_some_iff.1 found
      obtain ⟨fits, free⟩ := fresh (l, entry) (among ▸ List.mem_append_cons_self)
      obtain ⟨way, rfl⟩ := fits.resolve_left out
      rw [show t.at? l = none from free]
      exact Or.inr ⟨way, rfl, rfl⟩
  · rw [ran t' alike, ran t (.refl v t)]
  · rw [grown, stands]
    rfl

/-- The notes of a home. -/
def homeNotes : Vault := ⟨"home/notes"⟩

def homeTree : FileTree := ⟨[(["home"], .folder), (["home", "notes"], .folder)], []⟩

/-- Adding a note at the empty path touches the folder above the vault, and a note whose text is torn
leaves an empty file. -/
theorem not_confined_home :
    (["home"] ∈ (homeNotes.after [.create .whole "" "x"] homeTree).touched ∧
      ¬ homeNotes.Inside ["home"]) ∧
    ((homeNotes.createOn (.torn 0 "No space left on device") "a.md" "x").run homeTree).1 =
      .error (.text "No space left on device") ∧
    homeTree.text? ["home", "notes", "a.md"] = none ∧
    ((homeNotes.createOn (.torn 0 "No space left on device") "a.md" "x").run homeTree).2.text?
      ["home", "notes", "a.md"] = some "" := by
  refine ⟨⟨by decide +kernel, fun inside => ?_⟩, by rfl, by decide +kernel, by decide +kernel⟩
  exact absurd inside.below (by decide +kernel)

/-- On an empty disk the folder above the vault is made then, and the vault is not. -/
example :
    (homeNotes.after [.create .whole "" "x"] {}).at? ["home"] = some .folder ∧
      (homeNotes.after [.create .whole "" "x"] {}).at? ["home", "notes"] = none := by
  decide +kernel

end Vault

end Formulary
