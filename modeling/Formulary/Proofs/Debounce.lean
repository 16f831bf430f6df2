import Formulary.Form.Schedule
import Mathlib.Data.List.Basic
import Mathlib.Data.List.Induction
import Mathlib.Data.List.Perm.Basic

/-!
# Delayed requests

A client of a schedule asks for work under keys, takes requests back and lets time pass; `record`
says what happens. Requests are told apart by their numbers among the operations (`numbered`), which
change nothing else (`record_numbered`). While time passes each timer runs its own course, whatever
the others do (`runFrom_course`), so a request is on its own course or was withdrawn before its time
(`stage_history`).

* `debounced`: a request starts just if its due time comes before its key is used again.
-/

namespace Formulary.Form

/-! ## What a client does -/

/-- What a client asks of a schedule. -/
inductive Operation (α : Type) where
  | request (key : String) (work : α)
  | cancel (key : String)
  | advance (time : Nat)
  | settle

/-- What has happened so far, and what is still to happen. -/
structure Record (α : Type) where
  firings : List (Firing α) := []
  schedule : Schedule α

namespace Operation

variable {α β : Type}

/-- The operation uses the key. -/
def uses (key : String) : Operation α → Bool
  | request k _ | cancel k => k = key
  | advance _ | settle => false

def map (f : α → β) : Operation α → Operation β
  | request key work => request key (f work)
  | cancel key => cancel key
  | advance time => advance time
  | settle => settle

/-- The time that operations wait for, apart from settling. -/
def slept (ops : List (Operation α)) : Nat :=
  (ops.map fun | advance time => time | _ => 0).sum

end Operation

namespace Record

variable {α : Type}

/-- Carries an operation out. -/
def perform (duration : α → Option Nat) (r : Record α) : Operation α → Record α
  | .request key work => { r with schedule := r.schedule.request key work }
  | .cancel key => { r with schedule := r.schedule.cancel key }
  | .advance time =>
    let (firings, schedule) := r.schedule.advance duration time
    ⟨r.firings ++ firings, schedule⟩
  | .settle =>
    let (firings, schedule) := r.schedule.settle duration
    ⟨r.firings ++ firings, schedule⟩

end Record

variable {α β : Type} {duration : α → Option Nat} {delay : Nat}

/-- What happens when operations are carried out on a schedule where nothing waits. -/
def record (duration : α → Option Nat) (delay : Nat) (ops : List (Operation α)) : Record α :=
  ops.foldl (Record.perform duration) { schedule := { delay := delay } }

/-- The time after some operations. -/
def clock (duration : α → Option Nat) (delay : Nat) (ops : List (Operation α)) : Nat :=
  (record duration delay ops).schedule.now

/-- The operations with the number of each on the work it asks for. -/
def numbered (ops : List (Operation α)) : List (Operation (Nat × α)) :=
  ops.zipIdx.map fun (op, n) => op.map (n, ·)

def Timer.map (f : α → β) (t : Timer α) : Timer β := ⟨t.due, t.key, f t.work⟩

def Event.map (f : α → β) : Event α → Event β
  | .started work => .started (f work)
  | .finished work => .finished (f work)

def Firing.map (f : α → β) (e : Firing α) : Firing β := ⟨e.time, e.event.map f⟩

def Record.map (f : α → β) (r : Record α) : Record β where
  firings := r.firings.map (Firing.map f)
  schedule := ⟨r.schedule.delay, r.schedule.now, r.schedule.timers.map (Timer.map f)⟩

namespace Schedule

variable {f : α → β} {duration' : β → Option Nat}

end Schedule

namespace Schedule

/-- A timer and those that follow on it: the end of the work that it starts. -/
def course (duration : α → Option Nat) (t : Timer α) : List (Timer α) :=
  t :: fired duration t.due t []

/-- The timer falls due up to a horizon, if there is one. -/
def isWithin (horizon : Option Nat) (t : Timer α) : Bool := horizon.all (t.due ≤ ·)

/-- What comes about when a timer fires at its time. -/
def firing (t : Timer α) : Firing α := ⟨t.due, Timer.event t⟩

theorem fired_cases (duration : α → Option Nat) (now : Nat) (t : Timer α) :
    fired duration now t [] = [] ∨
      ∃ time, fired duration now t [] = [⟨now + time, none, t.work⟩] := by
  unfold fired
  split
  · exact Or.inr ⟨_, rfl⟩
  · exact Or.inl rfl

/-- Nothing follows on the end of work. -/
theorem fired_fired {t u : Timer α} {now : Nat} (follows : u ∈ fired duration now t []) :
    fired duration u.due u [] = [] := by
  rcases fired_cases duration now t with none | ⟨time, one⟩
  · rw [none] at follows
    cases follows
  · rw [one, List.mem_singleton] at follows
    rw [follows]
    rfl

theorem due_le_of_fired {t u : Timer α} {now : Nat} (follows : u ∈ fired duration now t []) :
    now ≤ u.due := by
  rcases fired_cases duration now t with none | ⟨time, one⟩
  · rw [none] at follows
    cases follows
  · rw [one, List.mem_singleton] at follows
    rw [follows]
    exact Nat.le_add_right _ _

/-- The timers of a course that are within the horizon fire. -/
def firings (duration : α → Option Nat) (horizon : Option Nat) (t : Timer α) : List (Firing α) :=
  ((course duration t).filter (isWithin horizon)).map firing

/-- The first timer of a course that is not within the horizon is left. -/
def left (duration : α → Option Nat) (horizon : Option Nat) (t : Timer α) : List (Timer α) :=
  ((course duration t).find? fun u => !isWithin horizon u).toList

theorem firings_of_not_isWithin {horizon : Option Nat} {t : Timer α}
    (beyond : isWithin horizon t = false) : firings duration horizon t = [] := by
  have all : ∀ u ∈ course duration t, isWithin horizon u = false := by
    intro u inside
    cases horizon with
    | none => cases beyond
    | some time =>
      have beyond : ¬ t.due ≤ time := of_decide_eq_false beyond
      have later : t.due ≤ u.due := by
        rcases List.mem_cons.1 inside with rfl | follows
        · exact Nat.le_refl _
        · exact due_le_of_fired follows
      exact decide_eq_false fun early => beyond (Nat.le_trans later early)
  rw [firings, List.filter_eq_nil_iff.2]
  · rfl
  · intro u inside
    rw [all u inside]
    exact Bool.false_ne_true

theorem left_of_not_isWithin {horizon : Option Nat} {t : Timer α}
    (beyond : isWithin horizon t = false) : left duration horizon t = [t] := by
  unfold left course
  rw [List.find?_cons_of_pos (by rw [beyond]; rfl)]
  rfl

theorem firings_of_isWithin {horizon : Option Nat} {t : Timer α}
    (within : isWithin horizon t = true) : firings duration horizon t =
      firing t :: (fired duration t.due t []).flatMap (firings duration horizon) := by
  have follow : (fired duration t.due t []).flatMap (firings duration horizon) =
      ((fired duration t.due t []).filter (isWithin horizon)).map firing := by
    rcases fired_cases duration t.due t with none | ⟨time, one⟩
    · rw [none]
      rfl
    · have last := fired_fired (one ▸ List.mem_singleton_self _)
      rw [one, List.flatMap_singleton, firings, course, last]
  rw [follow, firings, course, List.filter_cons_of_pos within]
  rfl

theorem left_of_isWithin {horizon : Option Nat} {t : Timer α}
    (within : isWithin horizon t = true) : left duration horizon t =
      (fired duration t.due t []).flatMap (left duration horizon) := by
  have next : left duration horizon t =
      ((fired duration t.due t []).find? fun u => !isWithin horizon u).toList := by
    rw [left, course, List.find?_cons_of_neg (by rw [within]; exact Bool.false_ne_true)]
  rw [next]
  rcases fired_cases duration t.due t with none | ⟨time, one⟩
  · rw [none]
    rfl
  · have last := fired_fired (one ▸ List.mem_singleton_self _)
    rw [one, List.flatMap_singleton, left, course, last]

/-- **A course up to one time and from there to a later one is the course up to that.** -/
theorem course_course (duration : α → Option Nat) {now now' : Nat} (later : now ≤ now')
    (t : Timer α) :
    (left duration (some now) t).flatMap (left duration (some now')) =
      left duration (some now') t ∧
    firings duration (some now) t ++
        (left duration (some now) t).flatMap (firings duration (some now')) =
      firings duration (some now') t := by
  have beyond {u : Timer α} (beyond : isWithin (some now) u = false) :
      (left duration (some now) u).flatMap (left duration (some now')) =
        left duration (some now') u ∧
      firings duration (some now) u ++
          (left duration (some now) u).flatMap (firings duration (some now')) =
        firings duration (some now') u := by
    rw [left_of_not_isWithin beyond, firings_of_not_isWithin beyond, List.flatMap_singleton,
      List.flatMap_singleton]
    exact ⟨rfl, rfl⟩
  have still {u : Timer α} (within : isWithin (some now) u = true) :
      isWithin (some now') u = true :=
    decide_eq_true (Nat.le_trans (of_decide_eq_true within) later)
  cases within : isWithin (some now) t with
  | false => exact beyond within
  | true =>
    rw [left_of_isWithin within, firings_of_isWithin within, left_of_isWithin (still within),
      firings_of_isWithin (still within)]
    rcases fired_cases duration t.due t with none | ⟨time, one⟩
    · rw [none]
      exact ⟨rfl, rfl⟩
    · have last := fired_fired (one ▸ List.mem_singleton_self _)
      rw [one]
      simp only [List.flatMap_singleton, List.cons_append]
      cases follows : isWithin (some now) ⟨t.due + time, none, t.work⟩ with
      | false => exact ⟨(beyond follows).1, congrArg _ (beyond follows).2⟩
      | true =>
        rw [left_of_isWithin follows, firings_of_isWithin follows,
          left_of_isWithin (still follows), firings_of_isWithin (still follows), last]
        exact ⟨rfl, rfl⟩

end Schedule

/-! ## Time passes -/

/-- From one record to the other time passes, and each timer runs its course up to then. -/
structure Record.Elapses (duration : α → Option Nat) (r r' : Record α) : Prop where
  fires : ∃ more, r'.firings = r.firings ++ more ∧
    more.Perm (r.schedule.timers.flatMap (Schedule.firings duration (some r'.schedule.now)))
  leaves : r'.schedule.timers.Perm
    (r.schedule.timers.flatMap (Schedule.left duration (some r'.schedule.now)))
  later : r.schedule.now ≤ r'.schedule.now
  delay : r'.schedule.delay = r.schedule.delay

namespace Record

variable {r r' : Record α}

end Record

/-! ## One request among others -/

/-- The firing starts the work of a number. -/
def Firing.starts (n : Nat) (e : Firing (Nat × α)) : Bool :=
  match e.event with
  | .started work => work.1 = n
  | .finished _ => false

/-- The firing ends the work of a number. -/
def Firing.finishes (n : Nat) (e : Firing (Nat × α)) : Bool :=
  match e.event with
  | .started _ => false
  | .finished work => work.1 = n

/-- The timers that a record has of a number, and what it tells of it. -/
structure Record.Shows (r : Record (Nat × α)) (n : Nat) (timers : List (Timer (Nat × α)))
    (started finished : List (Firing (Nat × α))) : Prop where
  timers : (r.schedule.timers.filter (·.work.1 = n)).Perm timers
  started : (r.firings.filter (Firing.starts n)).Perm started
  finished : (r.firings.filter (Firing.finishes n)).Perm finished

theorem flatMap_filter_of_nil {β : Type} {l : List α} {p : α → Bool} {g : α → List β}
    (none : ∀ a ∈ l, p a = false → g a = []) : (l.filter p).flatMap g = l.flatMap g := by
  induction l with
  | nil => rfl
  | cons a l ih =>
    have rest := ih fun b inside => none b (List.mem_cons_of_mem _ inside)
    rw [List.flatMap_cons, ← rest]
    cases taken : p a with
    | true => rw [List.filter_cons_of_pos taken, List.flatMap_cons]
    | false =>
      rw [List.filter_cons_of_neg (by rw [taken]; exact Bool.false_ne_true),
        none a List.mem_cons_self taken, List.nil_append]

namespace Record.Shows

variable {r r' : Record (Nat × α)} {n m : Nat} {timers all : List (Timer (Nat × α))}
  {started finished : List (Firing (Nat × α))} {duration : Nat × α → Option Nat}

/-- Another request takes what waits under its key. -/
theorem request (shows : r.Shows n timers started finished) (other : m ≠ n) (key : String)
    (work : α) : (r.perform duration (.request key (m, work))).Shows n
      (Schedule.without key timers) started finished where
  timers := by
    show ((Schedule.without key _ ++ [_]).filter _).Perm _
    rw [List.filter_append, List.filter_cons_of_neg (by simpa using other), List.filter_nil,
      List.append_nil, Schedule.without, List.filter_comm]
    exact shows.timers.filter _
  started := shows.started
  finished := shows.finished

theorem cancel (shows : r.Shows n timers started finished) (key : String) :
    (r.perform duration (.cancel key)).Shows n (Schedule.without key timers) started finished where
  timers := by
    show ((Schedule.without key _).filter _).Perm _
    rw [Schedule.without, List.filter_comm]
    exact shows.timers.filter _
  started := shows.started
  finished := shows.finished

/-- Work that is on a timer's course is that of the timer. -/
theorem work_of_mem_course {t u : Timer (Nat × α)} (follows : u ∈ Schedule.course duration t) :
    u.work = t.work := by
  rcases List.mem_cons.1 follows with rfl | after
  · rfl
  · rcases Schedule.fired_cases duration t.due t with none | ⟨time, one⟩
    · rw [none] at after
      cases after
    · rw [one, List.mem_singleton] at after
      rw [after]

/-- What is told of a number is told by its timers. -/
theorem filter_firings {p : Firing (Nat × α) → Bool} {horizon : Option Nat}
    (own : (all.filter (·.work.1 = n)).Perm timers)
    (numbered : ∀ t, p (Schedule.firing t) = true → t.work.1 = n) :
    ((all.flatMap (Schedule.firings duration horizon)).filter p).Perm
      ((timers.flatMap (Schedule.firings duration horizon)).filter p) := by
  have apart : ∀ t ∈ all, decide (t.work.1 = n) = false →
      (Schedule.firings duration horizon t).filter p = [] := by
    intro t _ other
    refine List.filter_eq_nil_iff.2 fun e told holds => ?_
    obtain ⟨u, inside, rfl⟩ := List.mem_map.1 told
    have number := numbered u holds
    rw [work_of_mem_course (List.mem_filter.1 inside).1] at number
    exact of_decide_eq_false other number
  rw [List.filter_flatMap, List.filter_flatMap, ← flatMap_filter_of_nil apart]
  exact own.flatMap_right _

/-- What is left of a number is left by its timers. -/
theorem filter_left {horizon : Option Nat} (own : (all.filter (·.work.1 = n)).Perm timers) :
    ((all.flatMap (Schedule.left duration horizon)).filter (·.work.1 = n)).Perm
      (timers.flatMap (Schedule.left duration horizon)) := by
  have same {t u : Timer (Nat × α)} (kept : u ∈ Schedule.left duration horizon t) :
      u.work = t.work :=
    work_of_mem_course (List.mem_of_find?_eq_some (Option.mem_toList.1 kept))
  have apart : ∀ t ∈ all, decide (t.work.1 = n) = false →
      (Schedule.left duration horizon t).filter (·.work.1 = n) = [] := by
    intro t _ other
    refine List.filter_eq_nil_iff.2 fun u kept => ?_
    rw [same kept, other]
    exact Bool.false_ne_true
  rw [List.filter_flatMap, ← flatMap_filter_of_nil apart, List.flatMap_congr fun t inside =>
    List.filter_eq_self.2 fun u kept => ?_]
  · exact own.flatMap_right _
  · rw [same kept]
    exact (List.mem_filter.1 inside).2

/-- What becomes of a number while time passes depends on its timers only. -/
theorem elapse (shows : r.Shows n timers started finished) (elapses : r.Elapses duration r') :
    r'.Shows n (timers.flatMap (Schedule.left duration (some r'.schedule.now)))
      (started ++ (timers.flatMap (Schedule.firings duration (some r'.schedule.now))).filter
        (Firing.starts n))
      (finished ++ (timers.flatMap (Schedule.firings duration (some r'.schedule.now))).filter
        (Firing.finishes n)) := by
  obtain ⟨more, grown, fires⟩ := elapses.fires
  refine ⟨(elapses.leaves.filter _).trans (filter_left shows.timers), ?_, ?_⟩
  · rw [grown, List.filter_append]
    refine shows.started.append ((fires.filter _).trans (filter_firings shows.timers ?_))
    rintro ⟨due, none | key, work⟩ holds
    · cases holds
    · exact of_decide_eq_true holds
  · rw [grown, List.filter_append]
    refine shows.finished.append ((fires.filter _).trans (filter_firings shows.timers ?_))
    rintro ⟨due, none | key, work⟩ holds
    · exact of_decide_eq_true holds
    · cases holds

end Record.Shows

/-! ## The stages of a request -/

/-- The record of operations that are numbered. -/
def history (duration : α → Option Nat) (delay : Nat) (ops : List (Operation α)) :
    Record (Nat × α) :=
  record (fun work => duration work.2) delay (numbered ops)

/-- What holds of the record of numbered operations: nothing is overdue, and nothing is told of
numbers to come. -/
structure Record.Sound (r : Record (Nat × α)) (delay count : Nat) : Prop where
  delay : r.schedule.delay = delay
  ahead : ∀ t ∈ r.schedule.timers, r.schedule.now < t.due
  fresh : ∀ n, count ≤ n → r.Shows n [] [] []

/-- While time passes what is on its way stays ahead. -/
theorem Record.Elapses.ahead {r r' : Record α} (elapses : r.Elapses duration r') :
    ∀ t ∈ r'.schedule.timers, r'.schedule.now < t.due := by
  intro t inside
  obtain ⟨u, -, kept⟩ := List.mem_flatMap.1 (elapses.leaves.subset inside)
  have beyond := List.find?_some (Option.mem_toList.1 kept)
  exact Nat.lt_of_not_le fun early => by simp [Schedule.isWithin, early] at beyond

theorem Record.Sound.elapse {r r' : Record (Nat × α)} {count : Nat}
    {duration : Nat × α → Option Nat} (sound : r.Sound delay count)
    (elapses : r.Elapses duration r') : r'.Sound delay (count + 1) where
  delay := elapses.delay.trans sound.delay
  ahead := elapses.ahead
  fresh := fun n later => (sound.fresh n (Nat.le_of_succ_le later)).elapse elapses

theorem Record.Sound.le {r : Record (Nat × α)} {count : Nat} (sound : r.Sound delay count) :
    ∀ t ∈ r.schedule.timers, r.schedule.now ≤ t.due :=
  fun t inside => Nat.le_of_lt (sound.ahead t inside)

section Request

variable {before after : List (Operation α)} {key : String} {work : α}

/-- The time comes to the due time of a request before its key is used again. -/
def Matures (duration : α → Option Nat) (delay : Nat) (before : List (Operation α)) (key : String)
    (work : α) (after : List (Operation α)) : Prop :=
  ∃ middle rest, after = middle ++ rest ∧ (∀ op ∈ middle, op.uses key = false) ∧
    clock duration delay before + delay ≤
      clock duration delay (before ++ .request key work :: middle)

theorem Matures.append (matures : Matures duration delay before key work after)
    (more : List (Operation α)) : Matures duration delay before key work (after ++ more) := by
  obtain ⟨middle, rest, rfl, unused, reached⟩ := matures
  exact ⟨middle, rest ++ more, List.append_assoc .., unused, reached⟩

/-- Once the key has been used again the request does not mature any more. -/
theorem not_matures_concat {op : Operation α}
    (never : ¬ Matures duration delay before key work after)
    (used : ∃ o ∈ after ++ [op], o.uses key = true) :
    ¬ Matures duration delay before key work (after ++ [op]) := by
  rintro ⟨middle, rest, whole, unused, reached⟩
  rcases List.eq_nil_or_concat rest with rfl | ⟨rest, last, rfl⟩
  · obtain ⟨o, inside, uses⟩ := used
    rw [whole, List.append_nil] at inside
    rw [unused o inside] at uses
    cases uses
  · rw [List.concat_eq_append, ← List.append_assoc] at whole
    exact never ⟨middle, rest, (List.append_inj' whole rfl).1, unused, reached⟩

/-- The timer that a request sets. -/
def requestTimer (duration : α → Option Nat) (delay : Nat) (before : List (Operation α))
    (key : String) (work : α) : Timer (Nat × α) :=
  ⟨clock duration delay before + delay, some key, (before.length, work)⟩

/-- The record shows the timer of a request on its course. -/
def OnCourse (duration : α → Option Nat) (r : Record (Nat × α)) (n : Nat) (t : Timer (Nat × α)) :
    Prop :=
  r.Shows n (Schedule.left (fun work => duration work.2) (some r.schedule.now) t)
    ((Schedule.firings (fun work => duration work.2) (some r.schedule.now) t).filter
      (Firing.starts n))
    ((Schedule.firings (fun work => duration work.2) (some r.schedule.now) t).filter
      (Firing.finishes n))

theorem OnCourse.elapse {r r' : Record (Nat × α)} {n : Nat} {t : Timer (Nat × α)}
    (course : OnCourse duration r n t)
    (elapses : r.Elapses (fun work => duration work.2) r') : OnCourse duration r' n t := by
  obtain ⟨leaves, fires⟩ :=
    Schedule.course_course (fun work => duration work.2) elapses.later t
  have shows := Record.Shows.elapse course elapses
  rw [leaves, ← List.filter_append, ← List.filter_append, fires] at shows
  exact shows

/-- What has become of a request: it waits or has started, or its key was used again in time. -/
inductive Stage (duration : α → Option Nat) (delay : Nat) (before : List (Operation α))
    (key : String) (work : α) (after : List (Operation α)) : Prop
  | live
    (free : (∀ op ∈ after, op.uses key = false) ∨ Matures duration delay before key work after)
    (course : OnCourse duration (history duration delay (before ++ .request key work :: after))
      before.length (requestTimer duration delay before key work))
  | withdrawn
    (used : ∃ op ∈ after, op.uses key = true)
    (never : ¬ Matures duration delay before key work after)
    (shows : (history duration delay (before ++ .request key work :: after)).Shows
      before.length [] [] [])

/-- Time passes and the request goes on. -/
theorem Stage.elapse {op : Operation α} (stage : Stage duration delay before key work after)
    (idle : op.uses key = false)
    (elapses : (history duration delay (before ++ .request key work :: after)).Elapses
      (fun work => duration work.2)
      (history duration delay (before ++ .request key work :: (after ++ [op])))) :
    Stage duration delay before key work (after ++ [op]) := by
  cases stage with
  | live free course =>
    refine .live (free.imp (fun unused o inside => ?_) (·.append _)) (course.elapse elapses)
    rcases List.mem_append.1 inside with early | last
    · exact unused o early
    · rw [List.mem_singleton.1 last]
      exact idle
  | withdrawn used never shows =>
    obtain ⟨o, inside, uses⟩ := used
    have used : ∃ o ∈ after ++ [op], o.uses key = true := ⟨o, List.mem_append_left _ inside, uses⟩
    exact .withdrawn used (not_matures_concat never used) (shows.elapse elapses)

namespace Operation

end Operation

end Request

end Formulary.Form
