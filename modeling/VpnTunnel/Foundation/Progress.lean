import Mathlib.Order.WellFounded
import VpnTunnel.Foundation.Monitor

namespace VpnTunnel.Foundation

/-! Threads under one lock get on: what they are doing takes a bounded number of
their own steps, and they never wait for each other in a circle. -/

section

variable {Point Shared Event : Type*}

/-- Where the thread stands after the deed. -/
def Deed.point : Deed Point Shared → Point
  | .move point | .acquire point | .work _ point | .release _ point => point

/-- A busy thread always has a deed to do, and with each the rank of its point
falls. -/
structure Progressive
    (program : Point → Shared → Event → Option (Deed Point Shared))
    (busy : Point → Prop) (rank : Point → ℕ) : Prop where
  enabled : ∀ point shared, busy point →
    ∃ event deed, program point shared event = some deed
  falls : ∀ point shared event deed, busy point →
    program point shared event = some deed → rank deed.point < rank point

namespace Monitor

variable {program : Point → Shared → Event → Option (Deed Point Shared)}
  {busy inside : Point → Prop} {rank : Point → ℕ}
  {s next : Monitor Point Shared}

theorem points_perform {thread : ℕ} {deed : Deed Point Shared}
    (performed : s.perform thread deed = some next) :
    next.points = Function.update s.points thread deed.point := by
  cases deed with
  | acquire point =>
      dsimp only [perform] at performed
      split at performed
      · cases performed
        rfl
      · cases performed
  | _ =>
      cases performed
      rfl

theorem perform_isSome (thread : ℕ) {deed : Deed Point Shared}
    (able : s.lock = none ∨ ∀ point, deed ≠ .acquire point) :
    ∃ next, s.perform thread deed = some next := by
  cases deed with
  | acquire point =>
      rcases able with free | other
      · exact ⟨_, if_pos free⟩
      · exact absurd rfl (other point)
  | move point => exact ⟨_, rfl⟩
  | work shared point => exact ⟨_, rfl⟩
  | release shared point => exact ⟨_, rfl⟩

/-- While some thread is busy, some busy thread can go on. -/
theorem can_step {invariant : Shared → Prop} {holds : Point → Shared → Prop}
    (lawful : Lawful program inside invariant holds)
    (progressive : Progressive program busy rank)
    (active : ∀ point, inside point → busy point)
    (exclusive : s.Exclusive inside) {thread : ℕ}
    (works : busy (s.points thread)) :
    ∃ other event next, busy (s.points other) ∧
      monitorStep program s (other, event) = some next := by
  have steps (other : ℕ) (event : Event) (deed : Deed Point Shared)
      (does : program (s.points other) s.shared event = some deed)
      (able : s.lock = none ∨ ∀ point, deed ≠ .acquire point) :
      ∃ next, monitorStep program s (other, event) = some next := by
    obtain ⟨next, performed⟩ := perform_isSome other able
    exact ⟨next, Option.bind_eq_some_iff.mpr ⟨deed, does, performed⟩⟩
  cases lock : s.lock with
  | none =>
      obtain ⟨event, deed, does⟩ := progressive.enabled _ s.shared works
      obtain ⟨next, stepped⟩ := steps thread event deed does (.inl lock)
      exact ⟨thread, event, next, works, stepped⟩
  | some holder =>
      have held : inside (s.points holder) := (exclusive holder).mpr lock
      obtain ⟨event, deed, does⟩ :=
        progressive.enabled _ s.shared (active _ held)
      have other (point : Point) : deed ≠ .acquire point := by
        rintro rfl
        exact (lawful _ _ _ _ does).1 held
      obtain ⟨next, stepped⟩ := steps holder event deed does (.inr other)
      exact ⟨holder, event, next, active _ held, stepped⟩

theorem rank_step (progressive : Progressive program busy rank) {thread : ℕ}
    {event : ℕ × Event}
    (works : event.1 = thread → busy (s.points thread))
    (stepped : monitorStep program s event = some next) :
    (if event.1 = thread then 1 else 0) + rank (next.points thread) ≤
      rank (s.points thread) := by
  obtain ⟨deed, does, performed⟩ := step_cases stepped
  rw [points_perform performed]
  split
  case isTrue own =>
    subst own
    rw [Function.update_self, Nat.add_comm]
    exact progressive.falls _ _ _ _ (works rfl) does
  case isFalse other =>
    rw [Nat.zero_add]
    exact Nat.le_of_eq
      (congrArg rank (Function.update_of_ne (Ne.symm other) _ _))

/-- However the threads are interleaved, a thread that begins nothing new makes at
most as many steps as its rank. -/
theorem own_steps_le (progressive : Progressive program busy rank) {thread : ℕ}
    {events : List (ℕ × Event)}
    (along : Along (monitorStep program)
      (fun s event => event.1 = thread → busy (s.points thread)) s events)
    (reached : run (monitorStep program) s events = some next) :
    events.countP (fun event => event.1 = thread) + rank (next.points thread) ≤
      rank (s.points thread) := by
  induction events generalizing s with
  | nil =>
      cases reached
      exact Nat.le_of_eq (Nat.zero_add _)
  | cons event rest ih =>
      obtain ⟨middle, stepped, tail⟩ := run_cons_eq_some.mp reached
      have first := rank_step progressive along.1 stepped
      have later := ih (along.2 middle stepped) tail
      rw [List.countP_cons]
      by_cases own : event.1 = thread
      · rw [if_pos own] at first
        simp only [own, decide_true, if_true]
        omega
      · rw [if_neg own] at first
        simp only [own, decide_false, Bool.false_eq_true, if_false]
        omega

end Monitor

end

/-! Steps that lower a rank, among others that leave it alone. -/

section

variable {State Event Rank : Type*} {step : State → Event → Option State}
  {idle busy : State → Event → Prop}

/-- One busy step, after any number of idle ones. -/
def Pace (step : State → Event → Option State) (idle busy : State → Event → Prop)
    (next state : State) : Prop :=
  ∃ waits middle event, Along step idle state waits ∧
    run step state waits = some middle ∧ busy middle event ∧
    step middle event = some next

/-- A rank that busy steps lower bounds them, whatever comes between. -/
theorem acc_pace [LT Rank] [WellFoundedLT Rank] {rank : State → Rank}
    {invariant : State → Prop}
    (preserves : ∀ state event next, invariant state →
      idle state event ∨ busy state event → step state event = some next →
      invariant next)
    (rests : ∀ state event next, invariant state → idle state event →
      step state event = some next → rank next = rank state)
    (lowers : ∀ state event next, invariant state → busy state event →
      step state event = some next → rank next < rank state)
    {state : State} (holds : invariant state) :
    Acc (Pace step idle busy) state := by
  have bounded (bound : Rank) : ∀ state, rank state = bound → invariant state →
      Acc (Pace step idle busy) state := by
    induction bound using WellFoundedLT.induction with
    | ind bound ih =>
        intro state ranked holds
        constructor
        rintro next ⟨waits, middle, event, resting, waited, works, stepped⟩
        have keeps (now : State) (event : Event) (next : State)
            (both : invariant now ∧ rank now = rank state) (rest : idle now event)
            (stepped : step now event = some next) :
            invariant next ∧ rank next = rank state :=
          ⟨preserves now event next both.1 (.inl rest) stepped,
            (rests now event next both.1 rest stepped).trans both.2⟩
        have still := run_invariant_along keeps resting waited ⟨holds, rfl⟩
        have lower := lowers middle event next still.1 works stepped
        rw [still.2, ranked] at lower
        exact ih (rank next) lower next rfl
          (preserves middle event next still.1 (.inr works) stepped)
  exact bounded (rank state) state rfl holds

end

end VpnTunnel.Foundation
