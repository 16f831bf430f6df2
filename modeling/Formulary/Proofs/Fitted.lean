import Formulary.Display.Window
import Mathlib.Data.List.Basic

/-!
# The window around the active thing

The window reaches back from the active one of some things as far as there are rows, and then forth.
Both times it is one count that goes on: of the rows that are taken already (`Reaches`). So the
window can be made larger on neither side: what stopped the way back stands against it still when
the way forth has taken more. That sums of rows do not exceed 16 bits is said by adding in such a
way that nothing comes of a sum that does (`plus?`): the window is found all the same.

* `visibleWindow_fits`: the window fits, cannot be made larger, and no sum exceeds its bits.
-/

namespace Formulary.Display

variable {heights : List UInt16} {available used taken h : UInt16} {active n : Nat}

/-- The rows of some things. -/
def rows : List UInt16 → Nat
  | [] => 0
  | h :: heights => h.toNat + rows heights

theorem rows_nil : rows [] = 0 := rfl

theorem rows_cons (h : UInt16) (heights : List UInt16) :
    rows (h :: heights) = h.toNat + rows heights := rfl

theorem rows_append (heights more : List UInt16) :
    rows (heights ++ more) = rows heights + rows more := by
  induction heights with
  | nil => exact (Nat.zero_add _).symm
  | cons h heights ih => rw [List.cons_append, rows_cons, rows_cons, ih, Nat.add_assoc]

theorem rows_reverse (heights : List UInt16) : rows heights.reverse = rows heights := by
  induction heights with
  | nil => rfl
  | cons h heights ih =>
    rw [List.reverse_cons, rows_append, ih, rows_cons, rows_cons, rows_nil, Nat.add_zero,
      Nat.add_comm]

/-! ## One way -/

/-- A sum, if it fits into 16 bits. -/
def plus? (a b : UInt16) : Option UInt16 :=
  if a.toNat + b.toNat < UInt16.size then some (a + b) else none

/-- As many things as fit one after another, if all sums fit into 16 bits. -/
def reach? (available used : UInt16) : List UInt16 → Option (Nat × UInt16)
  | [] => some (0, used)
  | h :: heights => do
    let sum ← plus? used h
    if sum ≤ available then
      let (n, taken) ← reach? available sum heights
      return (n + 1, taken)
    else return (0, used)

/-- The sums of rows on the way fit into 16 bits. -/
def Roomy (available used : UInt16) (heights : List UInt16) : Prop :=
  ∀ h ∈ heights, max available.toNat used.toNat + h.toNat < UInt16.size

/-- The first `n` things are taken on the way, and with them all the rows that are `taken`. They
fit, and the next one does not. -/
structure Reaches (available used : UInt16) (heights : List UInt16) (n : Nat) (taken : UInt16) :
    Prop where
  inside : n ≤ heights.length
  sum : taken.toNat = used.toNat + rows (heights.take n)
  fits : n = 0 ∨ taken.toNat ≤ available.toNat
  full : ∀ h, heights[n]? = some h → available.toNat < taken.toNat + h.toNat

theorem Roomy.toNat_add (roomy : Roomy available used (h :: heights)) :
    (used + h).toNat = used.toNat + h.toNat := by
  have small := roomy h List.mem_cons_self
  rw [UInt16.toNat_add]
  have sum := Nat.add_le_add_right (Nat.le_max_right available.toNat used.toNat) h.toNat
  exact Nat.mod_eq_of_lt (Nat.lt_of_le_of_lt sum small)

theorem Roomy.plus? (roomy : Roomy available used (h :: heights)) :
    plus? used h = some (used + h) := by
  have small := roomy h List.mem_cons_self
  exact if_pos (by omega)

theorem Roomy.tail (roomy : Roomy available used (h :: heights)) (fits : taken ≤ available) :
    Roomy available taken heights := by
  intro h' later
  have small := roomy h' (List.mem_cons_of_mem h later)
  have fits : taken.toNat ≤ available.toNat := fits
  omega

theorem reaches_reach (roomy : Roomy available used heights) :
    Reaches available used heights (reach available used heights).1
      (reach available used heights).2 := by
  induction heights generalizing used with
  | nil => exact ⟨Nat.le_refl 0, rfl, Or.inl rfl, by simp⟩
  | cons h heights ih =>
    have exactly := roomy.toNat_add
    rw [reach]
    split
    · rename_i fits
      have later := ih (roomy.tail fits)
      refine ⟨Nat.succ_le_succ later.inside, ?_, Or.inr ?_, fun h' next => later.full h' next⟩
      · rw [List.take_succ_cons, rows_cons, ← Nat.add_assoc, ← exactly]
        exact later.sum
      · rcases later.fits with none | within
        · have sum := later.sum
          rw [none] at sum
          exact Nat.le_trans (Nat.le_of_eq sum) fits
        · exact within
    · rename_i exceeds
      refine ⟨Nat.zero_le _, rfl, Or.inl rfl, fun h' next => ?_⟩
      cases next
      rw [UInt16.not_le, UInt16.lt_iff_toNat_lt, exactly] at exceeds
      exact exceeds

theorem reach?_eq (roomy : Roomy available used heights) :
    reach? available used heights = some (reach available used heights) := by
  induction heights generalizing used with
  | nil => rfl
  | cons h heights ih =>
    rw [reach?, roomy.plus?, reach]
    dsimp only [bind, Option.bind]
    split
    · rename_i fits
      rw [ih (roomy.tail fits)]
      rfl
    · rfl

/-! ## Both ways -/

/-- The window of a checked count: nothing comes of it if a sum exceeds 16 bits. -/
def visibleWindow? (heights : List UInt16) (active : Nat) (available : UInt16) :
    Option (Nat × Nat) := do
  let active := min active (heights.length - 1)
  match heights.drop active with
  | [] => return (0, 0)
  | h :: later =>
    let (back, used) ← reach? available h (heights.take active).reverse
    let (forth, _) ← reach? available used later
    return (active - back, active + 1 + forth)

/-- The rows of the things from `start` up to `stop`. -/
def windowRows (heights : List UInt16) (start stop : Nat) : Nat :=
  rows ((heights.take stop).drop start)

/-- The window from `start` up to `stop` holds the active thing. It fits unless it holds nothing
else, and with one thing more on either side it would not. -/
structure Fits (heights : List UInt16) (active : Nat) (available : UInt16) (start stop : Nat) :
    Prop where
  start_le : start ≤ active
  active_lt : active < stop
  stop_le : stop ≤ heights.length
  sum : windowRows heights start stop ≤ available.toNat ∨ start = active ∧ stop = active + 1
  before : 0 < start → available.toNat < windowRows heights (start - 1) stop
  after : stop < heights.length → available.toNat < windowRows heights start (stop + 1)

section

variable {front later : List UInt16} {m : Nat}

theorem windowRows_append (front later : List UInt16) (h : UInt16) (m n : Nat) :
    windowRows (front ++ h :: later) (front.length - m) (front.length + 1 + n) =
      rows (front.reverse.take m) + h.toNat + rows (later.take n) := by
  have kept : (front ++ h :: later).take (front.length + 1 + n) = front ++ h :: later.take n := by
    rw [Nat.add_assoc, List.take_length_add_append, Nat.add_comm 1 n, List.take_succ_cons]
  have back : rows (front.drop (front.length - m)) = rows (front.reverse.take m) := by
    rw [List.take_reverse, rows_reverse]
  rw [windowRows, kept, List.drop_append_of_le_length (Nat.sub_le _ _), rows_append, rows_cons,
    back, Nat.add_assoc]

theorem rows_take_succ {x : UInt16} (next : heights[n]? = some x) :
    rows (heights.take (n + 1)) = rows (heights.take n) + x.toNat := by
  rw [List.take_add_one, next, rows_append]
  rfl

/-- Two ways, the second with the rows that the first one took, make a window. -/
theorem Reaches.fits_append (back : Reaches available h front.reverse m used)
    (forth : Reaches available used later n taken) :
    Fits (front ++ h :: later) front.length available (front.length - m)
      (front.length + 1 + n) := by
  have inside := back.inside
  have inside' := forth.inside
  have sum := back.sum
  have sum' := forth.sum
  rw [List.length_reverse] at inside
  have length : (front ++ h :: later).length = front.length + 1 + later.length := by
    rw [List.length_append, List.length_cons]
    omega
  refine ⟨Nat.sub_le _ _, by omega, by omega, ?_, fun early => ?_, fun late => ?_⟩
  · rw [windowRows_append]
    rcases forth.fits with alone' | fits
    · rcases back.fits with alone | fits
      · exact Or.inr ⟨by omega, by omega⟩
      · rw [alone', List.take_zero, rows_nil]
        exact Or.inl (by omega)
    · exact Or.inl (by omega)
  · obtain ⟨x, next⟩ : ∃ x, front.reverse[m]? = some x :=
      ⟨_, List.getElem?_eq_getElem (by rw [List.length_reverse]; omega)⟩
    have full := back.full x next
    have start : front.length - m - 1 = front.length - (m + 1) := Nat.sub_sub _ _ _
    rw [start, windowRows_append, rows_take_succ next]
    omega
  · obtain ⟨x, next⟩ : ∃ x, later[n]? = some x :=
      ⟨_, List.getElem?_eq_getElem (by omega)⟩
    have full := forth.full x next
    rw [Nat.add_assoc _ n 1, windowRows_append, rows_take_succ next]
    omega

end

/-- The position of the active thing; what lies beyond the end is the last one. -/
def activeAt (heights : List UInt16) (active : Nat) : Nat := min active (heights.length - 1)

/-- The height of the active thing. -/
def activeHeight (heights : List UInt16) (active : Nat) : UInt16 :=
  heights[activeAt heights active]?.getD 0

theorem getElem?_activeAt (filled : heights ≠ []) (active : Nat) :
    heights[activeAt heights active]? = some (activeHeight heights active) := by
  have inside : activeAt heights active < heights.length := by
    have := List.length_pos_of_ne_nil filled
    unfold activeAt
    omega
  rw [activeHeight, List.getElem?_eq_getElem inside]
  rfl

/-- **The window fits and cannot be made larger.** If the rows that are there or, where these are
more, those of the active thing, and those of any other thing are together less than 16 bits can
count, the window lies inside and holds the active thing; what it holds fits, unless it is that
thing alone; with the thing before it or the one after it, it would not fit; and no sum exceeds
16 bits on the way to it. -/
theorem visibleWindow_fits (active : Nat) (available : UInt16) (filled : heights ≠ [])
    (roomy : ∀ x ∈ heights,
      max available.toNat (activeHeight heights active).toNat + x.toNat < UInt16.size) :
    ∃ start stop, visibleWindow heights active available = (start, stop) ∧
      Fits heights (activeAt heights active) available start stop ∧
      visibleWindow? heights active available = some (start, stop) := by
  have here := getElem?_activeAt filled active
  generalize activeHeight heights active = h at here roomy
  unfold activeAt at here ⊢
  unfold visibleWindow visibleWindow?
  dsimp only
  generalize min active (heights.length - 1) = active at here ⊢
  obtain ⟨inside, rfl⟩ := List.getElem?_eq_some_iff.1 here
  let front := heights.take active
  let later := heights.drop (active + 1)
  have whole : front ++ heights[active] :: later = heights := by
    rw [← List.drop_eq_getElem_cons inside, List.take_append_drop]
  have length : front.length = active := List.length_take_of_le (Nat.le_of_lt inside)
  have room : Roomy available heights[active] front.reverse := fun x among =>
    roomy x (List.mem_of_mem_take (List.mem_reverse.1 among))
  have back := reaches_reach room
  have room' : Roomy available (reach available heights[active] front.reverse).2 later := by
    intro x among
    have small := roomy x (List.mem_of_mem_drop among)
    have sum := back.sum
    rcases back.fits with none | fits
    · rw [none, List.take_zero, rows_nil] at sum
      omega
    · omega
  have fits := back.fits_append (reaches_reach room')
  rw [whole, length] at fits
  rw [List.drop_eq_getElem_cons inside]
  refine ⟨_, _, rfl, fits, ?_⟩
  dsimp only [bind, Option.bind]
  rw [reach?_eq room]
  dsimp only
  rw [reach?_eq room']
  rfl

/-- Five things of three rows each on nine rows, the last one active; and one that is too high. -/
theorem visibleWindow_fits_five :
    let heights : List UInt16 := [3, 3, 3, 3, 3]
    heights ≠ [] ∧
    (∀ x ∈ heights, max (9 : UInt16).toNat (activeHeight heights 7).toNat + x.toNat < UInt16.size) ∧
    visibleWindow heights 7 9 = (2, 5) ∧ Fits heights 4 9 2 5 ∧
    visibleWindow? heights 7 9 = some (2, 5) ∧ visibleWindow [6, 6] 1 3 = (1, 2) := by
  intro heights
  have filled : heights ≠ [] := by decide
  have roomy : ∀ x ∈ heights,
      max (9 : UInt16).toNat (activeHeight heights 7).toNat + x.toNat < UInt16.size := by
    intro x among
    have three : x = 3 := by simpa [heights] using among
    rw [three]
    decide
  have window : visibleWindow heights 7 9 = (2, 5) := by decide
  obtain ⟨start, stop, found, fits, checked⟩ := visibleWindow_fits 7 9 filled roomy
  rw [window] at found
  cases found
  exact ⟨filled, roomy, window, fits, checked, by decide⟩

end Formulary.Display
