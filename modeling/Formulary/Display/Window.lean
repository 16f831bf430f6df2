/-!
# Which rows fit on the screen

Things of given heights stand one under another, and only some rows are there. The window around the
active one first reaches back as far as it can, then forth. Rows are counted in 16 bits.
-/

namespace Formulary.Display

/-- How many of some things fit one after another when some rows are taken, and the rows taken
then. -/
def reach (available used : UInt16) : List UInt16 → Nat × UInt16
  | [] => (0, used)
  | h :: heights =>
    if used + h ≤ available then
      let (n, used) := reach available (used + h) heights
      (n + 1, used)
    else (0, used)

/-- The window that shows the active one of some things: its start, and the position after its
end. -/
def visibleWindow (heights : List UInt16) (active : Nat) (available : UInt16) : Nat × Nat :=
  let active := min active (heights.length - 1)
  match heights.drop active with
  | [] => (0, 0)
  | h :: later =>
    let (back, used) := reach available h (heights.take active).reverse
    let (forth, _) := reach available used later
    (active - back, active + 1 + forth)

end Formulary.Display
