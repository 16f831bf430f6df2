import Formulary.Vault.Basic

/-!
# What is added to a vault

Making folders puts folders into the tree and nothing else, so the files of a vault stay as they are
until a note is put beside them.

* `files_create`: adding a note adds one file with its text, or leaves the files as they are.
-/

namespace Formulary

namespace FileTree

/-- The tree has the entries of another and some folders more. -/
def Grown (t t' : FileTree) : Prop :=
  ∃ added, t'.entries = t.entries ++ added ∧ ∀ e ∈ added, e.2 = Entry.folder

variable {t t' t'' : FileTree}

theorem Grown.of_same (same : t'.entries = t.entries) : t.Grown t' :=
  ⟨[], same.trans (List.append_nil _).symm, fun _ absurd => by cases absurd⟩

theorem Grown.trans (first : t.Grown t') (second : t'.Grown t'') : t.Grown t'' := by
  obtain ⟨added, shape, folders⟩ := first
  obtain ⟨added', shape', folders'⟩ := second
  refine ⟨added ++ added', by rw [shape', shape, List.append_assoc], fun e among => ?_⟩
  exact (List.mem_append.1 among).elim (folders e) (folders' e)

/-- Something is added at the end, if nothing stands there and the name allows it. -/
theorem run_add (l : Location) (entry : Entry) (t : FileTree) :
    (add l entry).run t =
      if t.at? l = none ∧ l.getLast?.any isUsable then
        (true, { t with entries := t.entries ++ [(l, entry)] })
      else (false, t) := by
  have ran : (add l entry).run t =
      (if (t.at? l).isSome || !(l.getLast?.any isUsable)
        then pure false
        else do
          set { t with entries := t.entries ++ [(l, entry)] }
          return true : FileM Bool).run t := rfl
  rw [ran]
  cases t.at? l <;> cases l.getLast?.any isUsable <;> rfl

theorem run_put (l : Location) (entry : Entry) (t : FileTree) :
    (put l entry).run t =
      if t.at? l = none ∧ l.getLast?.any isUsable then
        (true, ⟨t.entries ++ [(l, entry)], t.touched ++ [l]⟩)
      else (false, { t with touched := t.touched ++ [l] }) :=
  run_add l entry { t with touched := t.touched ++ [l] }

/-- What is put stands last. -/
theorem entries_put (l : Location) (entry : Entry) (t : FileTree) :
    ((put l entry).run t).2.entries =
      if ((put l entry).run t).1 then t.entries ++ [(l, entry)] else t.entries := by
  rw [run_put]
  split <;> rfl

theorem grown_add (l : Location) (t : FileTree) : t.Grown ((add l .folder).run t).2 := by
  rw [run_add]
  split
  · refine ⟨_, rfl, fun e among => ?_⟩
    rw [List.mem_singleton.1 among]
  · exact .of_same rfl

theorem Grown.bind {α β : Type} {m : FileM α} {k : α → FileM β}
    (first : ∀ t : FileTree, t.Grown (m.run t).2)
    (later : ∀ a, ∀ t : FileTree, t.Grown ((k a).run t).2) (t : FileTree) :
    t.Grown ((m >>= k).run t).2 :=
  (first t).trans (later (m.run t).1 (m.run t).2)

/-- Making folders adds folders only. -/
theorem grown_makeFolders (base : Location) (names : List String) (t : FileTree) :
    t.Grown ((makeFolders base names).run t).2 := by
  induction names generalizing base t with
  | nil => exact .of_same rfl
  | cons name names ih =>
    unfold makeFolders
    refine Grown.bind (fun t => .of_same rfl) (fun found => ?_) t
    match found with
    | none =>
      refine Grown.bind (grown_add _) fun made => ?_
      cases made with
      | true => exact ih _
      | false => exact fun _ => .of_same rfl
    | some true => exact ih _
    | some false => exact fun _ => .of_same rfl

theorem grown_makeFolder (l : Location) (t : FileTree) : t.Grown ((makeFolder l).run t).2 := by
  unfold makeFolder
  refine Grown.bind (fun t => .of_same rfl) (fun _ => ?_) t
  split
  · exact fun _ => .of_same rfl
  · exact grown_makeFolders [] l

end FileTree

namespace Vault

variable {v : Vault} {t t' : FileTree}

theorem files_grown (grown : t.Grown t') : v.files t' = v.files t := by
  obtain ⟨added, shape, folders⟩ := grown
  unfold files
  rw [shape, List.filterMap_append]
  refine (congrArg _ (List.filterMap_eq_nil_iff.2 ?_)).trans (List.append_nil _)
  rintro ⟨l, entry⟩ among
  cases folders _ among
  rfl

theorem files_append_file (v : Vault) (names : List String) (text : String)
    (added : t'.entries = t.entries ++ [(v.base ++ names, .file text)]) :
    v.files t' = v.files t ++ [("/".intercalate names, text)] := by
  unfold files
  rw [added, List.filterMap_append]
  simp

/-- The folders of a note are made first, then the note is put there. -/
theorem run_createOn {writing : Writing} {path text : String} {p : Place}
    (found : place? path.toList = some p) :
    (v.createOn writing path text).run t =
      let made := (FileTree.makeFolder (v.location p).dropLast).run t
      let put := (FileTree.put (v.location p) (.file (writing.kept text))).run made.2
      if !made.1 then (.error (.folder (v.folderText p)), made.2)
      else if p.asFolder then
        (.error (.note (v.pathText p.path)),
          { made.2 with touched := made.2.touched ++ [v.location p] })
      else
        (if put.1 then writing.answer (v.pathText p.path) else .error (.note (v.pathText p.path)),
          put.2) := by
  unfold createOn
  rw [found]
  dsimp only
  rw [StateT.run_bind]
  generalize (FileTree.makeFolder (v.location p).dropLast).run t = made
  obtain ⟨folders, reached⟩ := made
  cases folders with
  | false => rfl
  | true =>
    cases p.asFolder with
    | true => rfl
    | false =>
      generalize ran :
        (FileTree.put (v.location p) (.file (writing.kept text))).run reached = put
      obtain ⟨fresh, last⟩ := put
      show (do
        let made ← FileTree.put (v.location p) (.file (writing.kept text))
        if made then return writing.answer (v.pathText p.path)
        else return .error (.note (v.pathText p.path)) :
          FileM (Except CreateError String)).run reached = _
      rw [StateT.run_bind, ran]
      cases fresh <;> rfl

/-- **Adding a note** adds a file with its text to the vault, or changes no file. -/
theorem files_create (v : Vault) (path text : String) (t : FileTree) :
    (∃ place name, ((v.create path text).run t).1 = .ok place ∧
      v.files ((v.create path text).run t).2 = v.files t ++ [(name, text)]) ∨
    (∃ e, ((v.create path text).run t).1 = .error e) ∧
      v.files ((v.create path text).run t).2 = v.files t := by
  unfold create
  cases found : place? path.toList with
  | none =>
    unfold createOn
    rw [found]
    exact Or.inr ⟨⟨_, rfl⟩, rfl⟩
  | some p =>
    rw [run_createOn found]
    dsimp only [Writing.kept]
    have grown := FileTree.grown_makeFolder (v.location p).dropLast t
    generalize (FileTree.makeFolder (v.location p).dropLast).run t = made at grown ⊢
    have last := FileTree.entries_put (v.location p) (.file text) made.2
    generalize (FileTree.put (v.location p) (.file text)).run made.2 = put at last ⊢
    split
    · exact Or.inr ⟨⟨_, rfl⟩, files_grown grown⟩
    · split
      · exact Or.inr ⟨⟨_, rfl⟩, files_grown grown⟩
      · dsimp only
        cases fresh : put.1 with
        | true =>
          rw [fresh, if_pos rfl] at last
          have added := files_append_file v p.names text last
          rw [files_grown grown] at added
          exact Or.inl ⟨_, _, rfl, added⟩
        | false =>
          rw [fresh, if_neg Bool.false_ne_true] at last
          exact Or.inr ⟨⟨_, rfl⟩, (files_grown (.of_same last)).trans (files_grown grown)⟩

end Vault

end Formulary
