import Formulary.Number.Whole

/-!
# Delayed work

Requests wait under a key for a fixed delay; a newer request replaces the waiting one of its key.
When a request falls due its work starts, which may take time; started work always finishes. Time
is virtual: it passes by `advance` and `settle` only, which let timers fire in the order of their
due times, those due together in the order in which they were set.

What is due at the very end of a wait fires before the wait is over. Where timers and their client
wake up on one clock, the client may go on first at that moment, so nothing should rest on it.
-/

namespace Formulary.Form

/-- A moment that something waits for: the start of requested work, or the end of work under way. -/
structure Timer (α : Type) where
  due : Nat
  /-- The key of a waiting request; none for work under way. -/
  key : Option String
  work : α
  deriving DecidableEq

/-- What happens when a timer fires. -/
inductive Event (α : Type) where
  | started (work : α)
  | finished (work : α)
  deriving DecidableEq

/-- An event and its time. -/
structure Firing (α : Type) where
  time : Nat
  event : Event α
  deriving DecidableEq

/-- The timers in the order in which they were set. Times are in milliseconds. -/
structure Schedule (α : Type) where
  delay : Nat
  now : Nat := 0
  timers : List (Timer α) := []

namespace Schedule

variable {α : Type}

/-! ## Requests -/

/-- The timers without the waiting request of a key. -/
def without (key : String) (timers : List (Timer α)) : List (Timer α) :=
  timers.filter fun t => t.key != some key

/-- Takes a waiting request back. -/
def cancel (s : Schedule α) (key : String) : Schedule α :=
  { s with timers := without key s.timers }

/-- Sets work to start after the delay, in place of the waiting request of the key. -/
def request (s : Schedule α) (key : String) (work : α) : Schedule α :=
  { s with timers := without key s.timers ++ [⟨s.now + s.delay, some key, work⟩] }

/-- Nothing waits and nothing is under way. -/
def isIdle (s : Schedule α) : Bool := s.timers.isEmpty

/-! ## Firing -/

/-- The first of the timers due earliest, and the others. -/
def earliest (t : Timer α) : List (Timer α) → Timer α × List (Timer α)
  | [] => (t, [])
  | u :: timers =>
    let (first, others) := earliest u timers
    if t.due ≤ first.due then (t, u :: timers) else (first, t :: others)

theorem earliest_perm (t : Timer α) (timers : List (Timer α)) :
    ((earliest t timers).1 :: (earliest t timers).2).Perm (t :: timers) := by
  induction timers generalizing t with
  | nil => exact List.Perm.refl _
  | cons u timers ih =>
    simp only [earliest]
    split
    · exact List.Perm.refl _
    · exact (List.Perm.swap _ _ _).trans ((ih u).cons t)

/-- How often a timer can still fire, counting the end of the work it starts. -/
def Timer.turns (t : Timer α) : Nat := if t.key.isSome then 2 else 1

/-- The turns of all timers. -/
def turns (timers : List (Timer α)) : Nat := (timers.map Timer.turns).sum

theorem turns_earliest (t : Timer α) (timers : List (Timer α)) :
    Timer.turns (earliest t timers).1 + turns (earliest t timers).2 = turns (t :: timers) := by
  induction timers generalizing t with
  | nil => simp [earliest, turns]
  | cons u timers ih =>
    have := ih u
    simp only [earliest]
    split
    · simp [turns]
    · simp only [turns, List.map_cons, List.sum_cons] at this ⊢
      omega

/-- The timers after one has fired at `now`: work that takes time is under way then. -/
def fired (duration : α → Option Nat) (now : Nat) (t : Timer α) (others : List (Timer α)) :
    List (Timer α) :=
  match t.key, duration t.work with
  | some _, some time => others ++ [⟨now + time, none, t.work⟩]
  | _, _ => others

theorem turns_fired_lt (duration : α → Option Nat) (now : Nat) (t : Timer α)
    (others : List (Timer α)) :
    turns (fired duration now t others) < Timer.turns t + turns others := by
  rcases h : t.key with _ | key <;> cases hd : duration t.work <;>
    simp [fired, h, hd, turns, Timer.turns]
  omega

/-- What firing a timer amounts to. -/
def Timer.event (t : Timer α) : Event α :=
  match t.key with
  | some _ => .started t.work
  | none => .finished t.work

/-- Fires the timers due up to `horizon`, or all of them, in order. -/
def runFrom (duration : α → Option Nat) (horizon : Option Nat) (now : Nat)
    (timers : List (Timer α)) : List (Firing α) × Nat × List (Timer α) :=
  match timers with
  | [] => ([], now, [])
  | t :: rest =>
    let first := (earliest t rest).1
    if horizon.all (first.due ≤ ·) then
      let now := max now first.due
      let (firings, last, timers) :=
        runFrom duration horizon now (fired duration now first (earliest t rest).2)
      (⟨now, Timer.event first⟩ :: firings, last, timers)
    else ([], now, t :: rest)
termination_by turns timers
decreasing_by
  rw [← turns_earliest]
  exact turns_fired_lt ..

/-- Lets time pass. What falls due at the end of it fires too. -/
def advance (s : Schedule α) (duration : α → Option Nat) (time : Nat) :
    List (Firing α) × Schedule α :=
  let horizon := s.now + time
  let (firings, _, timers) := runFrom duration (some horizon) s.now s.timers
  (firings, { s with now := horizon, timers := timers })

/-- Lets time pass until nothing waits or is under way. -/
def settle (s : Schedule α) (duration : α → Option Nat) : List (Firing α) × Schedule α :=
  let (firings, now, timers) := runFrom duration none s.now s.timers
  (firings, { s with now := now, timers := timers })

end Schedule

end Formulary.Form
