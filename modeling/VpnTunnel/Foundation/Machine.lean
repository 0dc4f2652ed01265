import Mathlib.Data.List.Induction

namespace VpnTunnel.Foundation

/-! Finite executions of a partial step function.  The events carry every choice
that is not the program's own: scheduling, clocks, random draws, the network. -/

def run (step : State → Event → Option State) : State → List Event → Option State
  | state, [] => some state
  | state, event :: rest =>
      (step state event).bind fun next => run step next rest

/-- Each step of the run leaves a state in which the guard allows its event. -/
def Along (step : State → Event → Option State)
    (guard : State → Event → Prop) : State → List Event → Prop
  | _, [] => True
  | state, event :: rest =>
      guard state event ∧
        ∀ next, step state event = some next → Along step guard next rest

instance Along.decidable {State Event : Type*}
    {step : State → Event → Option State} {guard : State → Event → Prop}
    [∀ state event, Decidable (guard state event)] :
    ∀ state events, Decidable (Along step guard state events)
  | _, [] => inferInstanceAs (Decidable True)
  | state, event :: rest =>
      have (next : State) : Decidable (Along step guard next rest) :=
        Along.decidable next rest
      inferInstanceAs (Decidable (guard state event ∧
        ∀ next ∈ step state event, Along step guard next rest))

section

variable {State Event : Type*} {step : State → Event → Option State}

@[simp] theorem run_nil (state : State) : run step state [] = some state := rfl

@[simp] theorem run_cons (state : State) (event : Event) (rest : List Event) :
    run step state (event :: rest) =
      (step state event).bind fun next => run step next rest := rfl

theorem run_cons_eq_some {state final : State} {event : Event}
    {rest : List Event} :
    run step state (event :: rest) = some final ↔
      ∃ next, step state event = some next ∧ run step next rest = some final := by
  simp [Option.bind_eq_some_iff]

theorem run_append (state : State) (first second : List Event) :
    run step state (first ++ second) =
      (run step state first).bind fun middle => run step middle second := by
  induction first generalizing state with
  | nil => rfl
  | cons event rest ih =>
      simp only [List.cons_append, run_cons, Option.bind_assoc]
      apply congrArg (Option.bind (step state event))
      funext next
      exact ih next

theorem run_append_eq_some {state final : State} {first second : List Event} :
    run step state (first ++ second) = some final ↔
      ∃ middle, run step state first = some middle ∧
        run step middle second = some final := by
  rw [run_append, Option.bind_eq_some_iff]

@[simp] theorem along_nil (guard : State → Event → Prop) (state : State) :
    Along step guard state [] := trivial

theorem Along.append_left {guard : State → Event → Prop} {state : State}
    {first second : List Event}
    (along : Along step guard state (first ++ second)) :
    Along step guard state first := by
  induction first generalizing state with
  | nil => exact trivial
  | cons event rest ih =>
      exact ⟨along.1, fun next stepped => ih (along.2 next stepped)⟩

theorem Along.append_right {guard : State → Event → Prop}
    {state middle : State} {first second : List Event}
    (along : Along step guard state (first ++ second))
    (reached : run step state first = some middle) :
    Along step guard middle second := by
  induction first generalizing state with
  | nil =>
      cases reached
      exact along
  | cons event rest ih =>
      obtain ⟨next, stepped, tail⟩ := run_cons_eq_some.mp reached
      exact ih (along.2 next stepped) tail

theorem Along.and {guard also : State → Event → Prop} {state : State}
    {events : List Event} (along : Along step guard state events)
    (alongAlso : Along step also state events) :
    Along step (fun state event => guard state event ∧ also state event) state
      events := by
  induction events generalizing state with
  | nil => exact trivial
  | cons event rest ih =>
      exact ⟨⟨along.1, alongAlso.1⟩, fun next stepped =>
        ih (along.2 next stepped) (alongAlso.2 next stepped)⟩

theorem Along.mono {guard weaker : State → Event → Prop}
    (implied : ∀ state event, guard state event → weaker state event)
    {state : State} {events : List Event}
    (along : Along step guard state events) :
    Along step weaker state events := by
  induction events generalizing state with
  | nil => exact trivial
  | cons event rest ih =>
      exact ⟨implied state event along.1,
        fun next stepped => ih (along.2 next stepped)⟩

/-- What every guarded step preserves holds at the end of every guarded run. -/
theorem run_invariant_along {guard : State → Event → Prop}
    {invariant : State → Prop}
    (preserves : ∀ state event next, invariant state → guard state event →
      step state event = some next → invariant next)
    {state final : State} {events : List Event}
    (along : Along step guard state events)
    (reached : run step state events = some final)
    (holds : invariant state) : invariant final := by
  induction events generalizing state with
  | nil =>
      cases reached
      exact holds
  | cons event rest ih =>
      obtain ⟨next, stepped, tail⟩ := run_cons_eq_some.mp reached
      exact ih (along.2 next stepped) tail
        (preserves state event next holds along.1 stepped)

theorem along_of_forall {guard : State → Event → Prop}
    (allowed : ∀ state event, guard state event) (state : State)
    (events : List Event) : Along step guard state events := by
  induction events generalizing state with
  | nil => exact trivial
  | cons event rest ih => exact ⟨allowed state event, fun next _ => ih next⟩

theorem run_invariant {invariant : State → Prop}
    (preserves : ∀ state event next, invariant state →
      step state event = some next → invariant next)
    {state final : State} {events : List Event}
    (reached : run step state events = some final)
    (holds : invariant state) : invariant final := by
  have along : Along step (fun _ _ => True) state events :=
    along_of_forall (fun _ _ => trivial) state events
  exact run_invariant_along
    (fun state event next holds _ stepped =>
      preserves state event next holds stepped) along reached holds

/-- The same for a property of the state together with the events so far. -/
theorem run_history {holds : List Event → State → Prop} {start : State}
    (initial : holds [] start)
    (preserves : ∀ past state event next, run step start past = some state →
      holds past state → step state event = some next →
      holds (past ++ [event]) next)
    {final : State} {events : List Event}
    (reached : run step start events = some final) : holds events final := by
  induction events using List.reverseRecOn generalizing final with
  | nil =>
      cases reached
      exact initial
  | append_singleton past event ih =>
      obtain ⟨state, before, last⟩ := run_append_eq_some.mp reached
      obtain ⟨next, stepped, done⟩ := run_cons_eq_some.mp last
      cases done
      exact preserves past state event final before (ih before) stepped

theorem bind_map_of_alike {α β γ δ : Type*} {view : α → γ} {seen : β → δ}
    {first second : Option α} {next also : α → Option β}
    (same : first.map view = second.map view)
    (alike : ∀ one two, view one = view two →
      (next one).map seen = (also two).map seen) :
    (first.bind next).map seen = (second.bind also).map seen := by
  cases first with
  | none =>
      rw [Option.map_none, eq_comm, Option.map_eq_none_iff] at same
      rw [same]
      rfl
  | some one =>
      rw [Option.map_some, eq_comm, Option.map_eq_some_iff] at same
      obtain ⟨two, rfl, looks⟩ := same
      exact alike one two looks.symm

/-- Two runs that an observer cannot tell apart: where matching events take states
that look alike to states that look alike, the runs look alike to their ends. -/
theorem run_view {View : Type*} {view : State → View} {invariant : State → Prop}
    {matched : Event → Event → Prop}
    (preserves : ∀ state event next, invariant state →
      step state event = some next → invariant next)
    (unwinds : ∀ state other event also, invariant state → invariant other →
      view state = view other → matched event also →
      (step state event).map view = (step other also).map view)
    {state other : State} {events also : List Event}
    (alike : List.Forall₂ matched events also)
    (holds : invariant state) (holdsOther : invariant other)
    (same : view state = view other) :
    (run step state events).map view = (run step other also).map view := by
  induction alike generalizing state other with
  | nil => exact congrArg some same
  | @cons event event' rest rest' matching _ ih =>
      have stepped := unwinds state other event event' holds holdsOther same
        matching
      rw [run_cons, run_cons]
      cases first : step state event with
      | none =>
          rw [first, Option.map_none, eq_comm, Option.map_eq_none_iff] at stepped
          rw [stepped]
          rfl
      | some next =>
          rw [first, Option.map_some, eq_comm, Option.map_eq_some_iff] at stepped
          obtain ⟨next', second, looks⟩ := stepped
          rw [second]
          exact ih (preserves state event next holds first)
            (preserves other event' next' holdsOther second) looks.symm

end

end VpnTunnel.Foundation
