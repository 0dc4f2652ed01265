import VpnTunnel.Foundation.Monitor

namespace VpnTunnel.Foundation

/-! Threads under one lock do what they would do one locked section after the
other, in the order in which they give the lock back. -/

/-- What an observer sees of a run: after each step, what he sees of the thread
that made it. -/
def trace (step : State → ℕ × Event → Option State)
    (seen : State → ℕ → Option View) : State → List (ℕ × Event) → List (ℕ × View)
  | _, [] => []
  | state, event :: rest =>
      match step state event with
      | none => []
      | some next =>
          ((seen next event.1).map fun view => (event.1, view)).toList ++
            trace step seen next rest

theorem trace_append {State Event View : Type*}
    {step : State → ℕ × Event → Option State} {seen : State → ℕ → Option View}
    {state middle : State} {first second : List (ℕ × Event)}
    (reached : run step state first = some middle) :
    trace step seen state (first ++ second) =
      trace step seen state first ++ trace step seen middle second := by
  induction first generalizing state with
  | nil =>
      cases reached
      rfl
  | cons event rest ih =>
      obtain ⟨next, stepped, tail⟩ := run_cons_eq_some.mp reached
      simp only [List.cons_append, trace, stepped, ih tail, List.append_assoc]

theorem trace_singleton {State Event View : Type*}
    {step : State → ℕ × Event → Option State} {seen : State → ℕ → Option View}
    {state next : State} {event : ℕ × Event} (stepped : step state event = some next) :
    trace step seen state [event] =
      ((seen next event.1).map fun view => (event.1, view)).toList := by
  simp only [trace, stepped, List.append_nil]

/-- Where every step of a machine is a step of another one, its runs are runs of the
other one that look the same. -/
theorem run_matched {State Event Other View : Type*}
    {step : State → ℕ × Event → Option State}
    {other : State → ℕ × Other → Option State} (seen : State → ℕ → Option View)
    (matched : ∀ state thread event next, step state (thread, event) = some next →
      ∃ also, other state (thread, also) = some next)
    {state final : State} {events : List (ℕ × Event)}
    (reached : run step state events = some final) :
    ∃ also, run other state also = some final ∧
      trace other seen state also = trace step seen state events := by
  induction events generalizing state with
  | nil => exact ⟨[], reached, rfl⟩
  | cons event rest ih =>
      obtain ⟨next, stepped, tail⟩ := run_cons_eq_some.mp reached
      obtain ⟨first, same⟩ := matched state event.1 event.2 next stepped
      obtain ⟨also, ran, alike⟩ := ih tail
      refine ⟨(event.1, first) :: also, ?_, ?_⟩
      · exact run_cons_eq_some.mpr ⟨next, same, ran⟩
      · simp only [trace, stepped, same, alike]

section

variable {Point Shared Event : Type*}

/-- One step of a locked section by itself. -/
def workStep (program : Point → Shared → Event → Option (Deed Point Shared)) :
    Point × Shared → Event → Option (Point × Shared)
  | (point, shared), event =>
      match program point shared event with
      | some (.work after next) => some (next, after)
      | _ => none

/-- Its last step. -/
def releaseStep (program : Point → Shared → Event → Option (Deed Point Shared)) :
    Point × Shared → Event → Option (Point × Shared)
  | (point, shared), event =>
      match program point shared event with
      | some (.release after next) => some (next, after)
      | _ => none

def lockedSection
    (program : Point → Shared → Event → Option (Deed Point Shared))
    (point : Point) (shared : Shared) (works : List Event) (last : Event) :
    Option (Point × Shared) :=
  (run (workStep program) (point, shared) works).bind fun inner =>
    releaseStep program inner last

section

variable (program : Point → Shared → Event → Option (Deed Point Shared))

/-- The locked section can end so. -/
def Section (point : Point) (shared : Shared) (out : Point × Shared) : Prop :=
  ∃ works last, lockedSection program point shared works last = some out

def Deed.Leads (out : Point × Shared) : Deed Point Shared → Prop
  | .work after next => Section program next after out
  | .release after next => out = (next, after)
  | .move _ | .acquire _ => False

variable {program}

theorem Section.deed {point : Point} {shared : Shared} {out : Point × Shared}
    (ends : Section program point shared out) :
    ∃ event deed, program point shared event = some deed ∧
      deed.Leads program out := by
  obtain ⟨works, last, ends⟩ := ends
  obtain ⟨inner, worked, released⟩ := Option.bind_eq_some_iff.mp ends
  cases works with
  | nil =>
      cases worked
      dsimp only [releaseStep] at released
      split at released
      case h_1 after next does =>
        cases released
        exact ⟨last, .release after next, does, rfl⟩
      case h_2 => cases released
  | cons event rest =>
      obtain ⟨next, stepped, tail⟩ := run_cons_eq_some.mp worked
      dsimp only [workStep] at stepped
      split at stepped
      case h_1 after next does =>
        cases stepped
        refine ⟨event, .work after next, does, rest, last, ?_⟩
        exact Option.bind_eq_some_iff.mpr ⟨inner, tail, released⟩
      case h_2 => cases stepped

theorem Section.only {point : Point} {shared : Shared} {out : Point × Shared}
    (ends : Section program point shared out) (deed : Deed Point Shared)
    (only : ∀ event other, program point shared event = some other → other = deed) :
    deed.Leads program out := by
  obtain ⟨event, other, does, leads⟩ := ends.deed
  exact only event other does ▸ leads

end

structure Serial (Point Shared : Type*) where
  points : ℕ → Point
  shared : Shared

/-- A step of a thread alone, or a whole locked section. -/
inductive SerialEvent (Event : Type*)
  | move (event : Event)
  | locked (first : Event) (works : List Event) (last : Event)

namespace Serial

def start (point : Point) (shared : Shared) : Serial Point Shared :=
  { points := fun _ => point, shared }

def goto (s : Serial Point Shared) (thread : ℕ) (point : Point) :
    Serial Point Shared :=
  { s with points := Function.update s.points thread point }

def seen (s : Serial Point Shared) (thread : ℕ) : Option Point :=
  some (s.points thread)

end Serial

def serialStep (program : Point → Shared → Event → Option (Deed Point Shared))
    (s : Serial Point Shared) :
    ℕ × SerialEvent Event → Option (Serial Point Shared)
  | (thread, .move event) =>
      match program (s.points thread) s.shared event with
      | some (.move point) => some (s.goto thread point)
      | _ => none
  | (thread, .locked first works last) =>
      match program (s.points thread) s.shared first with
      | some (.acquire point) =>
          (lockedSection program point s.shared works last).map fun after =>
            { s.goto thread after.1 with shared := after.2 }
      | _ => none

/-- Outside the lock the program does not look at the shared data. -/
def Blind (program : Point → Shared → Event → Option (Deed Point Shared))
    (inside : Point → Prop) : Prop :=
  ∀ point shared other event, ¬ inside point →
    program point shared event = program point other event

namespace Monitor

variable {program : Point → Shared → Event → Option (Deed Point Shared)}
  {inside : Point → Prop} {s next : Monitor Point Shared}

/-- The locked section that is under way is still to come in the serial state. -/
inductive Mirrors
    (program : Point → Shared → Event → Option (Deed Point Shared))
    (s : Monitor Point Shared) (serial : Serial Point Shared) : Prop
  | free (lock : s.lock = none) (points : serial.points = s.points)
      (shared : serial.shared = s.shared)
  | held (thread : ℕ) (first : Event) (works : List Event) (entry : Point)
      (lock : s.lock = some thread)
      (acquires : program (serial.points thread) serial.shared first =
        some (.acquire entry))
      (inner : run (workStep program) (entry, serial.shared) works =
        some (s.points thread, s.shared))
      (others : ∀ other, other ≠ thread → serial.points other = s.points other)

theorem Mirrors.outside {serial : Serial Point Shared} {thread : ℕ}
    (mirrors : s.Mirrors program serial) (exclusive : s.Exclusive inside)
    (outside : ¬ inside (s.points thread)) :
    serial.points thread = s.points thread := by
  cases mirrors with
  | free lock points shared => rw [points]
  | held holder first works entry lock acquires inner others =>
      apply others
      rintro rfl
      exact outside ((exclusive thread).mpr lock)

theorem points_goto (s : Monitor Point Shared) (thread : ℕ) (point : Point) :
    (s.goto thread point).points = Function.update s.points thread point := rfl

/-- A thread moves alone: so it does in the serial state. -/
theorem Mirrors.move {serial : Serial Point Shared} {thread : ℕ} {event : Event}
    {point : Point} (mirrors : s.Mirrors program serial)
    (exclusive : s.Exclusive inside) (blind : Blind program inside)
    (outside : ¬ inside (s.points thread))
    (does : program (s.points thread) s.shared event = some (.move point)) :
    serialStep program serial (thread, .move event) =
        some (serial.goto thread point) ∧
      (s.goto thread point).Mirrors program (serial.goto thread point) := by
  have here := mirrors.outside exclusive outside
  have same : program (serial.points thread) serial.shared event =
      some (.move point) := by
    rw [here, blind _ serial.shared s.shared event outside]
    exact does
  refine ⟨by simp only [serialStep, same], ?_⟩
  cases mirrors with
  | free lock points shared =>
      refine .free lock ?_ shared
      rw [points_goto, ← points]
      rfl
  | held holder first works entry lock acquires inner others =>
      have apart : holder ≠ thread := by
        intro holds
        exact outside ((exclusive thread).mpr (holds ▸ lock))
      refine .held holder first works entry lock ?_ ?_ ?_
      · change program (Function.update serial.points thread point holder)
          serial.shared first = _
        rw [Function.update_of_ne apart]
        exact acquires
      · rw [goto_other point apart]
        exact inner
      · intro other different
        change Function.update serial.points thread point other =
          Function.update s.points thread point other
        by_cases own : other = thread
        · rw [own, Function.update_self, Function.update_self]
        · rw [Function.update_of_ne own, Function.update_of_ne own]
          exact others other different

/-- Taking the lock is not seen yet. -/
theorem Mirrors.acquire {serial : Serial Point Shared} {thread : ℕ}
    {event : Event} {point : Point} (mirrors : s.Mirrors program serial)
    (free : s.lock = none)
    (does : program (s.points thread) s.shared event = some (.acquire point)) :
    ({ s.goto thread point with lock := some thread } :
      Monitor Point Shared).Mirrors program serial := by
  cases mirrors with
  | held _ _ _ _ lock => cases free.symm.trans lock
  | free _ points shared =>
      refine .held thread event [] point rfl ?_ ?_ ?_
      · rw [points, shared]
        exact does
      · rw [run_nil, shared]
        change _ = some ((s.goto thread point).points thread, s.shared)
        rw [goto_self]
      · intro other different
        change _ = (s.goto thread point).points other
        rw [goto_other point different, points]

theorem Mirrors.work {serial : Serial Point Shared} {thread : ℕ} {event : Event}
    {point : Point} {shared : Shared} (mirrors : s.Mirrors program serial)
    (lock : s.lock = some thread)
    (does : program (s.points thread) s.shared event =
      some (.work shared point)) :
    ({ s.goto thread point with shared } : Monitor Point Shared).Mirrors program
      serial := by
  cases mirrors with
  | free unlocked => cases unlocked.symm.trans lock
  | held holder first works entry held acquires inner others =>
      obtain rfl : holder = thread := Option.some.inj (held.symm.trans lock)
      refine .held holder first (works ++ [event]) entry lock acquires ?_ ?_
      · rw [run_append, inner, Option.bind_some, run_cons]
        change (match program (s.points holder) s.shared event with
          | some (.work after next) => some (next, after)
          | _ => none).bind _ = some ((s.goto holder point).points holder, shared)
        rw [does, goto_self]
        rfl
      · intro other different
        change _ = (s.goto holder point).points other
        rw [goto_other point different]
        exact others other different

/-- Giving the lock back is the whole section at once. -/
theorem Mirrors.release {serial : Serial Point Shared} {thread : ℕ}
    {event : Event} {point : Point} {shared : Shared}
    (mirrors : s.Mirrors program serial) (lock : s.lock = some thread)
    (does : program (s.points thread) s.shared event =
      some (.release shared point)) :
    ∃ first works, serialStep program serial (thread, .locked first works event) =
        some { serial.goto thread point with shared } ∧
      ({ s.goto thread point with lock := none, shared } :
        Monitor Point Shared).Mirrors program
          { serial.goto thread point with shared } := by
  cases mirrors with
  | free unlocked => cases unlocked.symm.trans lock
  | held holder first works entry held acquires inner others =>
      obtain rfl : holder = thread := Option.some.inj (held.symm.trans lock)
      refine ⟨first, works, ?_, .free rfl ?_ rfl⟩
      · have ends : lockedSection program entry serial.shared works event =
            some (point, shared) := by
          rw [lockedSection, inner, Option.bind_some]
          simp only [releaseStep, does]
        simp only [serialStep, acquires, ends, Option.map_some]
      · change Function.update serial.points holder point =
          Function.update s.points holder point
        funext other
        by_cases own : other = holder
        · rw [own, Function.update_self, Function.update_self]
        · rw [Function.update_of_ne own, Function.update_of_ne own]
          exact others other own

variable [DecidablePred inside]

def outing (inside : Point → Prop) [DecidablePred inside]
    (s : Monitor Point Shared) (thread : ℕ) : Option Point :=
  if inside (s.points thread) then none else some (s.points thread)

/-- A serial run that has done all of the run so far but the section under way,
and has been seen to do the same. -/
def Serialized (program : Point → Shared → Event → Option (Deed Point Shared))
    (inside : Point → Prop) [DecidablePred inside] (point : Point)
    (shared : Shared) (past : List (ℕ × Event)) (s : Monitor Point Shared) : Prop :=
  ∃ serialPast serial,
    run (serialStep program) (.start point shared) serialPast = some serial ∧
      trace (serialStep program) Serial.seen (.start point shared) serialPast =
        trace (monitorStep program) (outing inside) (.start point shared) past ∧
      s.Mirrors program serial

theorem Serialized.seen {point : Point} {shared : Shared}
    {past : List (ℕ × Event)} {event : ℕ × Event} {done : SerialEvent Event}
    {serialPast : List (ℕ × SerialEvent Event)}
    {serial after : Serial Point Shared}
    (before : run (monitorStep program) (.start point shared) past = some s)
    (reached : run (serialStep program) (.start point shared) serialPast =
      some serial)
    (alike : trace (serialStep program) Serial.seen (.start point shared)
        serialPast =
      trace (monitorStep program) (outing inside) (.start point shared) past)
    (stepped : monitorStep program s event = some next)
    (outside : ¬ inside (next.points event.1))
    (serialStepped : serialStep program serial (event.1, done) = some after)
    (same : after.points event.1 = next.points event.1)
    (mirrors : next.Mirrors program after) :
    Serialized program inside point shared (past ++ [event]) next := by
  refine ⟨serialPast ++ [(event.1, done)], after, ?_, ?_, mirrors⟩
  · rw [run_append, reached, Option.bind_some, run_cons, serialStepped]
    rfl
  · rw [trace_append reached, trace_append before, alike,
      trace_singleton serialStepped, trace_singleton stepped]
    simp only [Serial.seen, outing, if_neg outside, same]

theorem Serialized.unseen {point : Point} {shared : Shared}
    {past : List (ℕ × Event)} {event : ℕ × Event}
    {serialPast : List (ℕ × SerialEvent Event)} {serial : Serial Point Shared}
    (before : run (monitorStep program) (.start point shared) past = some s)
    (reached : run (serialStep program) (.start point shared) serialPast =
      some serial)
    (alike : trace (serialStep program) Serial.seen (.start point shared)
        serialPast =
      trace (monitorStep program) (outing inside) (.start point shared) past)
    (stepped : monitorStep program s event = some next)
    (within : inside (next.points event.1))
    (mirrors : next.Mirrors program serial) :
    Serialized program inside point shared (past ++ [event]) next := by
  refine ⟨serialPast, serial, reached, ?_, mirrors⟩
  rw [trace_append before, alike, trace_singleton stepped]
  simp only [outing, if_pos within, Option.map_none, Option.toList_none,
    List.append_nil]

theorem Serialized.step {invariant : Shared → Prop}
    {holds : Point → Shared → Prop} {point : Point} {shared : Shared}
    {past : List (ℕ × Event)} {event : ℕ × Event}
    (lawful : Lawful program inside invariant holds)
    (blind : Blind program inside)
    (before : run (monitorStep program) (.start point shared) past = some s)
    (exclusive : s.Exclusive inside)
    (serialized : Serialized program inside point shared past s)
    (stepped : monitorStep program s event = some next) :
    Serialized program inside point shared (past ++ [event]) next := by
  obtain ⟨serialPast, serial, reached, alike, mirrors⟩ := serialized
  obtain ⟨thread, event⟩ := event
  obtain ⟨deed, does, performed⟩ := step_cases stepped
  have allowed := lawful _ _ _ _ does
  cases deed with
  | move aside =>
      obtain ⟨outside, after⟩ := allowed
      obtain ⟨serialStepped, still⟩ := mirrors.move exclusive blind outside does
      cases performed
      apply Serialized.seen before reached alike stepped ?_ serialStepped ?_ still
      · rw [goto_self]
        exact after
      · rw [goto_self]
        exact Function.update_self ..
  | acquire entry =>
      obtain ⟨-, entered, -⟩ := allowed
      dsimp only [Monitor.perform] at performed
      split at performed
      case isTrue free =>
        cases performed
        apply Serialized.unseen before reached alike stepped ?_
          (mirrors.acquire free does)
        change inside ((s.goto thread entry).points thread)
        rw [goto_self]
        exact entered
      case isFalse => cases performed
  | work changed inner =>
      obtain ⟨was, remains, -⟩ := allowed
      cases performed
      apply Serialized.unseen before reached alike stepped ?_
        (mirrors.work ((exclusive thread).mp was) does)
      change inside ((s.goto thread inner).points thread)
      rw [goto_self]
      exact remains
  | release changed outer =>
      obtain ⟨was, left, -⟩ := allowed
      obtain ⟨first, works, serialStepped, still⟩ :=
        mirrors.release ((exclusive thread).mp was) does
      cases performed
      apply Serialized.seen before reached alike stepped ?_ serialStepped ?_ still
      · change ¬ inside ((s.goto thread outer).points thread)
        rw [goto_self]
        exact left
      · change Function.update serial.points thread outer thread =
          Function.update s.points thread outer thread
        rw [Function.update_self, Function.update_self]

/-- Whatever the interleaving: a run that ends with the lock free ends as a serial
run does, and all that the threads were seen to do between their locked sections
they do there, in the same order. -/
theorem serial_of_run {invariant : Shared → Prop}
    {holds : Point → Shared → Prop} {point : Point} {shared : Shared}
    {events : List (ℕ × Event)}
    (lawful : Lawful program inside invariant holds)
    (blind : Blind program inside) (outside : ¬ inside point)
    (initial : invariant shared)
    (reached : run (monitorStep program) (.start point shared) events = some s)
    (free : s.lock = none) :
    ∃ serial, run (serialStep program) (.start point shared) serial =
        some { points := s.points, shared := s.shared } ∧
      trace (serialStep program) Serial.seen (.start point shared) serial =
        trace (monitorStep program) (outing inside) (.start point shared)
          events := by
  have serialized : Serialized program inside point shared events s := by
    apply run_history ?_ ?_ reached
    · exact ⟨[], .start point shared, rfl, rfl, .free rfl rfl rfl⟩
    · intro past state event next before serialized stepped
      have sound : state.Sound inside invariant holds :=
        Sound.of_run lawful (.start outside initial) before
      exact serialized.step lawful blind before sound.exclusive stepped
  obtain ⟨serialPast, serial, serialReached, alike, mirrors⟩ := serialized
  cases mirrors with
  | held _ _ _ _ lock => cases free.symm.trans lock
  | free _ points same =>
      refine ⟨serialPast, ?_, alike⟩
      rw [serialReached, ← points, ← same]

end Monitor

end

end VpnTunnel.Foundation
