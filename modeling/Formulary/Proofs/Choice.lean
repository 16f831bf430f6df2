import Formulary.Proofs.Reached

/-!
# The values of dropdowns

Merging options may drop the value of a dropdown out of them. Whatever then computes the value puts
it back among them, so that no session shows a dropdown with a value that is not an option.
-/

namespace Formulary.Form.Session

variable {s : Session} {form : Definition} {debounce : Nat} {f : Field}

theorem isEmpty_or_contains {state : FieldState} (dropdown : f.kind.isDropdown = true)
    (fresh : Surroundings.hasStaleOption f state = false) :
    state.value = "" ∨ state.value ∈ state.options.values := by
  rw [Surroundings.hasStaleOption, dropdown, Bool.true_and, Bool.and_eq_false_iff] at fresh
  rcases fresh with empty | among
  · exact Or.inl (String.isEmpty_iff.1 (by simpa using empty))
  · exact Or.inr (List.contains_iff_mem.1 (by simpa [OptionSet.contains] using among))

/-- Before anything is computed the value is empty; each computation takes care of it anew. -/
theorem lasts_fresh (form : Definition) :
    Lasts form fun f state => Surroundings.hasStaleOption f state = false where
  created := by
    intro f _
    have empty : (FieldState.created f).value.isEmpty = true := rfl
    simp only [Surroundings.hasStaleOption, empty, Bool.not_true, Bool.and_false, Bool.false_and]
  refreshed := fun _ _ _ _ state _ => Surroundings.hasStaleOption_refresh state
  marked := fun _ _ _ fresh => fresh

/-- **A dropdown never holds a value outside its options**: in every session that a form comes to,
the value of a dropdown is empty or one of the options it has then. -/
theorem value_mem_options (reached : s.Reached form debounce) (member : f ∈ form.fields)
    (dropdown : f.kind.isDropdown = true) :
    ∃ state, s.state? f.id = some state ∧
      (state.value = "" ∨ state.value ∈ state.options.values) := by
  obtain ⟨state, found, fresh⟩ := (reached.upholds (lasts_fresh form)).fields f member
  exact ⟨state, found, isEmpty_or_contains dropdown fresh⟩

/-! ## An example -/

def course : Field :=
  { id := "course", label := "Course", kind := .text, content := some (.fixed "soup") }

def dish : Field :=
  { id := "dish", label := "Dish", kind := .dropdown (some (.expression "{{$$.course}}"))
    content := some (.fixed "bread") }

def menu : Definition := { title := "Menu", fields := [course, dish] }

theorem start_menu : ∃ s, start menu defaultDebounce = .ok s :=
  exists_ok_of_isSome (by decide +kernel)

/-- The dish is the course that is offered, and the course is changed: its options lose the dish. -/
theorem value_mem_options_menu : ∃ s, start menu defaultDebounce = .ok s ∧
    ∀ (store : DocumentStore) (t : Session),
      t = (s.computeAll ⟨store, 0⟩).run store
        [(0, .edit "dish" "soup"), (0, .edit "course" "rice"), (0, .settle)] →
      t.Reached menu defaultDebounce ∧ dish.kind.isDropdown = true ∧
        ∃ state, t.state? "dish" = some state ∧
          (state.value = "" ∨ state.value ∈ state.options.values) := by
  obtain ⟨s, started⟩ := start_menu
  refine ⟨s, started, ?_⟩
  intro store t ran
  have reached : t.Reached menu defaultDebounce := by
    rw [ran]
    exact (Reached.allComputed _ (.opened started)).run store _
  have member : dish ∈ menu.fields := List.mem_cons_of_mem _ List.mem_cons_self
  exact ⟨reached, rfl, value_mem_options reached member rfl⟩

end Formulary.Form.Session
