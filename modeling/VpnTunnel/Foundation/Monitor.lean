import Mathlib.Logic.Function.Basic
import VpnTunnel.Foundation.Machine

namespace VpnTunnel.Foundation

/-! Threads that share data under one lock.  Each runs the same program; whoever
wants the data takes the lock first. -/

/-- What a thread does next: move on alone, take the lock, work on the shared data
or give the lock back with its last work. -/
inductive Deed (Point Shared : Type*)
  | move (point : Point)
  | acquire (point : Point)
  | work (shared : Shared) (point : Point)
  | release (shared : Shared) (point : Point)

structure Monitor (Point Shared : Type*) where
  lock : Option ℕ
  points : ℕ → Point
  shared : Shared

section

variable {Point Shared Event : Type*}

def Deed.map {Point' Shared' : Type*} (onPoint : Point → Point')
    (onShared : Shared → Shared') : Deed Point Shared → Deed Point' Shared'
  | .move point => .move (onPoint point)
  | .acquire point => .acquire (onPoint point)
  | .work shared point => .work (onShared shared) (onPoint point)
  | .release shared point => .release (onShared shared) (onPoint point)

namespace Monitor

def start (point : Point) (shared : Shared) : Monitor Point Shared :=
  { lock := none, points := fun _ => point, shared }

def goto (s : Monitor Point Shared) (thread : ℕ) (point : Point) :
    Monitor Point Shared :=
  { s with points := Function.update s.points thread point }

/-- What becomes of the whole when a thread does its deed. -/
def perform (s : Monitor Point Shared) (thread : ℕ) :
    Deed Point Shared → Option (Monitor Point Shared)
  | .move point => some (s.goto thread point)
  | .acquire point =>
      if s.lock = none then
        some { s.goto thread point with lock := some thread }
      else none
  | .work shared point => some { s.goto thread point with shared }
  | .release shared point =>
      some { s.goto thread point with lock := none, shared }

end Monitor

def monitorStep (program : Point → Shared → Event → Option (Deed Point Shared))
    (s : Monitor Point Shared) (event : ℕ × Event) :
    Option (Monitor Point Shared) :=
  (program (s.points event.1) s.shared event.2).bind (s.perform event.1)

/-- `inside` are the points at which the program has the lock, `invariant` is what
it keeps of the shared data while the lock is free, and `holds` what is true of
them at each point inside. -/
def Deed.Allowed (inside : Point → Prop) (invariant : Shared → Prop)
    (holds : Point → Shared → Prop) (point : Point) (shared : Shared) :
    Deed Point Shared → Prop
  | .move next => ¬ inside point ∧ ¬ inside next
  | .acquire next =>
      ¬ inside point ∧ inside next ∧ (invariant shared → holds next shared)
  | .work after next =>
      inside point ∧ inside next ∧ (holds point shared → holds next after)
  | .release after next =>
      inside point ∧ ¬ inside next ∧ (holds point shared → invariant after)

/-- Every deed of the program is allowed. -/
def Lawful (program : Point → Shared → Event → Option (Deed Point Shared))
    (inside : Point → Prop) (invariant : Shared → Prop)
    (holds : Point → Shared → Prop) : Prop :=
  ∀ point shared event deed, program point shared event = some deed →
    deed.Allowed inside invariant holds point shared

namespace Monitor

variable {program : Point → Shared → Event → Option (Deed Point Shared)}
  {inside : Point → Prop} {invariant : Shared → Prop}
  {holds : Point → Shared → Prop} {s next : Monitor Point Shared}

@[simp] theorem goto_self (thread : ℕ) (point : Point) :
    (s.goto thread point).points thread = point := by
  simp [goto]

@[simp] theorem goto_other {thread other : ℕ} (point : Point)
    (different : other ≠ thread) :
    (s.goto thread point).points other = s.points other := by
  simp [goto, different]

/-- A thread has the lock exactly while it is inside. -/
def Exclusive (inside : Point → Prop) (s : Monitor Point Shared) : Prop :=
  ∀ thread, inside (s.points thread) ↔ s.lock = some thread

/-- The lock and the shared data together. -/
structure Sound (inside : Point → Prop) (invariant : Shared → Prop)
    (holds : Point → Shared → Prop) (s : Monitor Point Shared) : Prop where
  exclusive : s.Exclusive inside
  free : s.lock = none → invariant s.shared
  held : ∀ thread, s.lock = some thread → holds (s.points thread) s.shared

theorem step_cases {event : ℕ × Event}
    (stepped : monitorStep program s event = some next) :
    ∃ deed, program (s.points event.1) s.shared event.2 = some deed ∧
      s.perform event.1 deed = some next := by
  unfold monitorStep at stepped
  exact Option.bind_eq_some_iff.mp stepped

theorem Exclusive.goto {thread : ℕ} {point : Point} {shared : Shared}
    (exclusive : s.Exclusive inside)
    (same : inside point ↔ inside (s.points thread)) :
    ({ s.goto thread point with shared } : Monitor Point Shared).Exclusive
      inside := by
  intro other
  by_cases own : other = thread
  · subst own
    change inside ((s.goto other point).points other) ↔ _
    rw [goto_self, same]
    exact exclusive other
  · change inside ((s.goto thread point).points other) ↔ _
    rw [goto_other point own]
    exact exclusive other

theorem Exclusive.acquire {thread : ℕ} {point : Point}
    (exclusive : s.Exclusive inside) (free : s.lock = none)
    (entered : inside point) :
    ({ s.goto thread point with lock := some thread } :
      Monitor Point Shared).Exclusive inside := by
  intro other
  by_cases own : other = thread
  · subst own
    change inside ((s.goto other point).points other) ↔ _
    rw [goto_self]
    exact ⟨fun _ => rfl, fun _ => entered⟩
  · change inside ((s.goto thread point).points other) ↔ some thread = some other
    rw [goto_other point own, exclusive other, free]
    constructor
    · nofun
    · intro same
      exact absurd (Option.some.inj same).symm own

theorem Exclusive.release {thread : ℕ} {point : Point} {shared : Shared}
    (exclusive : s.Exclusive inside) (was : inside (s.points thread))
    (left : ¬ inside point) :
    ({ s.goto thread point with lock := none, shared } :
      Monitor Point Shared).Exclusive inside := by
  intro other
  have lock := (exclusive thread).mp was
  by_cases own : other = thread
  · subst own
    change inside ((s.goto other point).points other) ↔ _
    rw [goto_self]
    exact ⟨fun entered => absurd entered left, nofun⟩
  · change inside ((s.goto thread point).points other) ↔ none = some other
    rw [goto_other point own, exclusive other, lock]
    constructor
    · intro same
      exact absurd (Option.some.inj same).symm own
    · nofun

theorem Sound.perform {thread : ℕ} {deed : Deed Point Shared}
    (sound : s.Sound inside invariant holds)
    (allowed : deed.Allowed inside invariant holds (s.points thread) s.shared)
    (performed : s.perform thread deed = some next) :
    next.Sound inside invariant holds := by
  cases deed with
  | move point =>
      obtain ⟨outside, after⟩ := allowed
      cases performed
      refine ⟨?_, sound.free, ?_⟩
      · exact sound.exclusive.goto (iff_of_false after outside)
      · intro holder lock
        have other : holder ≠ thread := by
          rintro rfl
          exact outside ((sound.exclusive holder).mpr lock)
        change holds ((s.goto thread point).points holder) s.shared
        rw [goto_other point other]
        exact sound.held holder lock
  | acquire point =>
      obtain ⟨-, entered, first⟩ := allowed
      dsimp only [Monitor.perform] at performed
      split at performed
      case isTrue free =>
        cases performed
        refine ⟨sound.exclusive.acquire free entered, nofun, ?_⟩
        intro holder lock
        obtain rfl := Option.some.inj lock
        change holds ((s.goto thread point).points thread) s.shared
        rw [goto_self]
        exact first (sound.free free)
      case isFalse => cases performed
  | work shared point =>
      obtain ⟨was, remains, kept⟩ := allowed
      have lock := (sound.exclusive thread).mp was
      cases performed
      refine ⟨sound.exclusive.goto (iff_of_true remains was), ?_, ?_⟩
      · intro free
        exact absurd (lock.symm.trans free) nofun
      · intro holder held
        obtain rfl : thread = holder := Option.some.inj (lock.symm.trans held)
        change holds ((s.goto thread point).points thread) shared
        rw [goto_self]
        exact kept (sound.held thread lock)
  | release shared point =>
      obtain ⟨was, left, last⟩ := allowed
      have lock := (sound.exclusive thread).mp was
      cases performed
      refine ⟨sound.exclusive.release was left, ?_, nofun⟩
      intro _
      exact last (sound.held thread lock)

theorem Sound.step (lawful : Lawful program inside invariant holds)
    (sound : s.Sound inside invariant holds) {event : ℕ × Event}
    (stepped : monitorStep program s event = some next) :
    next.Sound inside invariant holds := by
  obtain ⟨deed, does, performed⟩ := step_cases stepped
  exact sound.perform (lawful _ _ _ _ does) performed

theorem Exclusive.step (lawful : Lawful program inside invariant holds)
    (exclusive : s.Exclusive inside) {event : ℕ × Event}
    (stepped : monitorStep program s event = some next) :
    next.Exclusive inside := by
  have weaker : Lawful program inside (fun _ => True) (fun _ _ => True) := by
    intro point shared event deed does
    have allowed := lawful point shared event deed does
    cases deed with
    | move point => exact allowed
    | acquire point => exact ⟨allowed.1, allowed.2.1, fun _ => trivial⟩
    | work after point => exact ⟨allowed.1, allowed.2.1, fun _ => trivial⟩
    | release after point => exact ⟨allowed.1, allowed.2.1, fun _ => trivial⟩
  have sound : s.Sound inside (fun _ => True) (fun _ _ => True) :=
    ⟨exclusive, fun _ => trivial, fun _ _ => trivial⟩
  exact (sound.step weaker stepped).exclusive

theorem Sound.start {point : Point} {shared : Shared} (outside : ¬ inside point)
    (initial : invariant shared) :
    (Monitor.start point shared).Sound inside invariant holds where
  exclusive := fun _ => iff_of_false outside nofun
  free := fun _ => initial
  held := nofun

/-- What holds in every state that the threads can reach. -/
theorem Sound.of_run (lawful : Lawful program inside invariant holds)
    (sound : s.Sound inside invariant holds) {events : List (ℕ × Event)}
    (reached : run (monitorStep program) s events = some next) :
    next.Sound inside invariant holds :=
  run_invariant (fun _ _ _ sound stepped => sound.step lawful stepped) reached
    sound

/-! The threads under a view of their points and of the shared data. -/

section

variable {Point' Shared' : Type*} (onPoint : Point → Point')
  (onShared : Shared → Shared')

def map (s : Monitor Point Shared) : Monitor Point' Shared' :=
  { lock := s.lock
    points := fun thread => onPoint (s.points thread)
    shared := onShared s.shared }

theorem map_goto (thread : ℕ) (point : Point) :
    (s.goto thread point).map onPoint onShared =
      (s.map onPoint onShared).goto thread (onPoint point) := by
  have points : (fun other => onPoint (Function.update s.points thread point other)) =
      Function.update (fun other => onPoint (s.points other)) thread
        (onPoint point) := by
    funext other
    exact Function.apply_update (fun _ => onPoint) s.points thread point other
  rw [map, goto, points]
  rfl

theorem perform_map (thread : ℕ) (deed : Deed Point Shared) :
    (s.map onPoint onShared).perform thread (deed.map onPoint onShared) =
      (s.perform thread deed).map (map onPoint onShared) := by
  cases deed with
  | move point => exact congrArg some (map_goto onPoint onShared thread point).symm
  | acquire point =>
      have moved := map_goto (s := s) onPoint onShared thread point
      dsimp only [Deed.map, perform]
      change (if s.lock = none then _ else _) = _
      split
      · rw [← moved]
        rfl
      · rfl
  | work shared point =>
      have moved := map_goto (s := s) onPoint onShared thread point
      dsimp only [Deed.map, perform]
      rw [← moved]
      rfl
  | release shared point =>
      have moved := map_goto (s := s) onPoint onShared thread point
      dsimp only [Deed.map, perform]
      rw [← moved]
      rfl

end

end Monitor

end

end VpnTunnel.Foundation
