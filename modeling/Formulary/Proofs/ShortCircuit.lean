import Formulary.Proofs.Lexical

/-!
# Methods that stop early

`filter` applies an arrow function to every element of an array. `find`, `some` and `every` apply
it to one element after the other and stop where their answer is known.

* `filter_decides`: where `filter` gives an array, the three read their answers off that array;
  where one of the three fails, `filter` fails in the same way.
-/

namespace Formulary.Script

/-! ## Tests that may fail -/

section

variable {p : Json → Except EvalCause Bool} {items kept : List Json} {cause : EvalCause}

theorem ok_of_return {α β : Type} {r : Except EvalCause α} {g : α → β} {b : β}
    (returned : (do return g (← r)) = Except.ok b) : ∃ a, r = .ok a ∧ g a = b := by
  cases r with
  | ok a =>
    cases returned
    exact ⟨a, rfl, rfl⟩
  | error cause => cases returned

theorem error_of_return {α β : Type} {r : Except EvalCause α} {g : α → β}
    (failed : (do return g (← r)) = Except.error cause) : r = .error cause := by
  cases r with
  | ok a => cases failed
  | error other =>
    cases failed
    rfl

/-- What a test says of a value, no where it fails. -/
def verdict (p : Json → Except EvalCause Bool) (v : Json) : Bool :=
  match p v with
  | .ok holds => holds
  | .error _ => false

/-- Where a filter comes to an end, every element was tested. -/
theorem tested_of_filterM (filtered : items.filterM p = .ok kept) :
    kept = items.filter (verdict p) ∧ ∀ v ∈ items, p v = .ok (verdict p v) := by
  induction items generalizing kept with
  | nil =>
    cases filtered
    exact ⟨rfl, List.forall_mem_nil _⟩
  | cons v items ih =>
    rw [filterM_cons] at filtered
    cases test : p v with
    | error cause =>
      rw [test] at filtered
      cases filtered
    | ok holds =>
      have said : verdict p v = holds := by rw [verdict, test]
      rw [test] at filtered
      cases later : items.filterM p with
      | error cause =>
        rw [later] at filtered
        cases filtered
      | ok more =>
        obtain ⟨rfl, tested⟩ := ih later
        rw [later] at filtered
        cases filtered
        refine ⟨by rw [List.filter_cons, said], fun w member => ?_⟩
        rcases List.mem_cons.1 member with rfl | member
        · rw [test, said]
        · exact tested w member

theorem findM?_of_tested {q : Json → Bool} (tested : ∀ v ∈ items, p v = .ok (q v)) :
    items.findM? p = .ok (items.find? q) := by
  induction items with
  | nil => rfl
  | cons v items ih =>
    have first := tested v List.mem_cons_self
    have later := ih fun w member => tested w (List.mem_cons_of_mem v member)
    rw [List.findM?, first, List.find?_cons]
    cases q v with
    | true => rfl
    | false => exact later

/-- A search fails at a test that fails, and no test before that one held. -/
theorem failure_of_findM? (failed : items.findM? p = .error cause) :
    ∃ before v after, items = before ++ v :: after ∧ (∀ w ∈ before, p w = .ok false) ∧
      p v = .error cause := by
  induction items with
  | nil => cases failed
  | cons v items ih =>
    rw [List.findM?] at failed
    cases test : p v with
    | error other =>
      rw [test] at failed
      cases failed
      exact ⟨[], v, items, rfl, List.forall_mem_nil _, test⟩
    | ok holds =>
      rw [test] at failed
      cases holds with
      | true => cases failed
      | false =>
        obtain ⟨before, w, after, rfl, passed, fails⟩ := ih failed
        refine ⟨v :: before, w, after, rfl, fun u member => ?_, fails⟩
        rcases List.mem_cons.1 member with rfl | member
        · exact test
        · exact passed u member

/-- A filter fails at the first test that fails. -/
theorem filterM_failure {before after : List Json} {v : Json}
    (passed : ∀ w ∈ before, ∃ holds, p w = .ok holds) (fails : p v = .error cause) :
    (before ++ v :: after).filterM p = .error cause := by
  induction before with
  | nil =>
    rw [List.nil_append, filterM_cons, fails]
    rfl
  | cons w before ih =>
    obtain ⟨holds, test⟩ := passed w List.mem_cons_self
    have later := ih fun u member => passed u (List.mem_cons_of_mem w member)
    rw [List.cons_append, filterM_cons, test, later]
    rfl

/-- The element that a search finds is the first that a filter keeps. -/
theorem findM?_of_filterM (filtered : items.filterM p = .ok kept) :
    items.findM? p = .ok kept.head? := by
  obtain ⟨rfl, tested⟩ := tested_of_filterM filtered
  rw [findM?_of_tested tested, List.head?_filter]

theorem anyM_of_filterM (filtered : items.filterM p = .ok kept) :
    items.anyM p = .ok (!kept.isEmpty) := by
  rw [anyM_eq, findM?_of_filterM filtered]
  cases kept <;> rfl

/-- All elements pass a test if a filter keeps as many as there are. -/
theorem allM_of_filterM (filtered : items.filterM p = .ok kept) :
    items.allM p = .ok (kept.length == items.length) := by
  obtain ⟨rfl, tested⟩ := tested_of_filterM filtered
  have opposite : ∀ v ∈ items, (do return !(← p v)) = Except.ok (!verdict p v) := by
    intro v member
    rw [tested v member]
    rfl
  rw [allM_eq, findM?_of_tested opposite]
  show Except.ok (items.find? fun v => !verdict p v).isNone = _
  rw [Except.ok.injEq, Bool.eq_iff_iff, Option.isNone_iff_eq_none, List.find?_eq_none, beq_iff_eq,
    List.length_filter_eq_length_iff]
  simp

theorem filterM_of_findM?_error (failed : items.findM? p = .error cause) :
    items.filterM p = .error cause := by
  obtain ⟨before, v, after, rfl, passed, fails⟩ := failure_of_findM? failed
  -- the search went past these elements, which a filter tests as well and leaves out
  exact filterM_failure (fun w member => ⟨false, passed w member⟩) fails

theorem filterM_of_anyM_error (failed : items.anyM p = .error cause) :
    items.filterM p = .error cause := by
  rw [anyM_eq] at failed
  exact filterM_of_findM?_error (error_of_return failed)

/-- Here the search is for an element that does not pass, and fails where the test itself does. -/
theorem filterM_of_allM_error (failed : items.allM p = .error cause) :
    items.filterM p = .error cause := by
  rw [allM_eq] at failed
  obtain ⟨before, v, after, rfl, passed, fails⟩ := failure_of_findM? (error_of_return failed)
  refine filterM_failure (fun w member => ?_) (error_of_return fails)
  obtain ⟨holds, test, -⟩ := ok_of_return (passed w member)
  exact ⟨holds, test⟩

end

/-! ## Methods of arrays -/

section

variable {f : Json → Except EvalCause Json} {items kept : List Json} {name : String}
  {cause : EvalCause}

theorem answers_of_filter (filtered : arrowAnswer items "filter" f = .ok (.array kept)) :
    arrowAnswer items "find" f = .ok (kept.head?.getD .null) ∧
      arrowAnswer items "some" f = .ok (.bool !kept.isEmpty) ∧
      arrowAnswer items "every" f = .ok (.bool (kept.length == items.length)) := by
  have kept_eq : items.filterM (condition f) = .ok kept := by
    obtain ⟨found, filtered, same⟩ := ok_of_return filtered
    cases same
    exact filtered
  refine ⟨?_, ?_, ?_⟩
  · show (do return (← items.findM? (condition f)).getD .null) = _
    rw [findM?_of_filterM kept_eq]
    rfl
  · show (do return Json.bool (← items.anyM (condition f))) = _
    rw [anyM_of_filterM kept_eq]
    rfl
  · show (do return Json.bool (← items.allM (condition f))) = _
    rw [allM_of_filterM kept_eq]
    rfl

theorem filter_of_failure (early : name ∈ ["find", "some", "every"])
    (failed : arrowAnswer items name f = .error cause) :
    arrowAnswer items "filter" f = .error cause := by
  have fails : items.filterM (condition f) = .error cause := by
    simp only [List.mem_cons, List.not_mem_nil, or_false] at early
    rcases early with rfl | rfl | rfl
    · exact filterM_of_findM?_error (error_of_return failed)
    · exact filterM_of_anyM_error (error_of_return failed)
    · exact filterM_of_allM_error (error_of_return failed)
  show (do return Json.array (← items.filterM (condition f))) = _
  rw [fails]
  rfl

end

/-- The result of a method of an array that is given an arrow function first, on a stack of
bindings. -/
def arrowResult (now : Calendar.Instant) (scopes : Scopes) (items : List Json)
    (param : Option String) (body : Expr) (more : List Arg) (name : String) :
    Except EvalCause Json :=
  ((callMethod (.array items) name
    (.arrow (fun v => withBinding param v (body.eval now)) :: more)).run.run scopes).1

section

variable (now : Calendar.Instant) (scopes : Scopes) (items : List Json) (param : Option String)
  (body : Expr) (more : List Arg)

/-- The function sees the same bindings for every element, whatever the body does. -/
theorem arrowResult_eq (name : String) (listed : arrowMethods.contains name = true) :
    arrowResult now scopes items param body more name =
      arrowAnswer items name fun v => body.valueIn now (scopes.extend param v) := by
  have each (v : Json) : Yields scopes (withBinding param v (body.eval now))
      (body.valueIn now (scopes.extend param v)) :=
    (yields_eval now (scopes.extend param v) body).withBinding
  unfold arrowResult callMethod
  dsimp only
  rw [if_pos listed, yields_callArrowMethod each items listed]

/-- **The methods that stop early agree with `filter`.** Where `filter` gives an array, `find` gives
its first element or null, `some` whether it has any, and `every` whether it has as many as there
are; where one of the three fails, `filter` fails with the same error. -/
theorem filter_decides :
    (∀ kept, arrowResult now scopes items param body more "filter" = .ok (.array kept) →
      arrowResult now scopes items param body more "find" = .ok (kept.head?.getD .null) ∧
      arrowResult now scopes items param body more "some" = .ok (.bool !kept.isEmpty) ∧
      arrowResult now scopes items param body more "every" =
        .ok (.bool (kept.length == items.length))) ∧
    ∀ name ∈ ["find", "some", "every"], ∀ cause,
      arrowResult now scopes items param body more name = .error cause →
      arrowResult now scopes items param body more "filter" = .error cause := by
  have result := arrowResult_eq now scopes items param body more
  have listed : ∀ name ∈ ["find", "some", "every"], arrowMethods.contains name = true := by decide
  rw [result "filter" (by decide)]
  constructor
  · intro kept filtered
    rw [result "find" (by decide), result "some" (by decide), result "every" (by decide)]
    exact answers_of_filter filtered
  · intro name early cause failed
    rw [result name (listed name early)] at failed
    exact filter_of_failure early failed

end

/-- With `least` bound to two, the numbers that are not below it are the last two of one to three;
a test of a name that is not bound fails in `every` as in `filter`. -/
theorem filter_decides_numbers :
    let numbers : List Json := [.int 1, .int 2, .int 3]
    let result := arrowResult 0 [("least", .int 2)] numbers (some "n")
      (.strict .ge (.ident "n") (.ident "least")) []
    let unbound := arrowResult 0 [] numbers (some "n")
      (.strict .ge (.ident "n") (.ident "least")) []
    result "filter" = .ok (.array [.int 2, .int 3]) ∧
      (result "find" = .ok (.int 2) ∧ result "some" = .ok (.bool true) ∧
        result "every" = .ok (.bool false)) ∧
      unbound "every" = .error (.undefinedName "least") ∧
      unbound "filter" = .error (.undefinedName "least") := by
  intro numbers result unbound
  have filtered : result "filter" = .ok (.array [.int 2, .int 3]) := by rfl
  have failed : unbound "every" = .error (.undefinedName "least") := by rfl
  exact ⟨filtered, (filter_decides _ _ _ _ _ _).1 _ filtered, failed,
    (filter_decides _ _ _ _ _ _).2 "every" (by decide) _ failed⟩

end Formulary.Script
