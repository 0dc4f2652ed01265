import Mathlib.Data.List.Forall2

namespace VpnTunnel.Foundation

/-! Programs that read from the front of an input held in their state.  `input`
projects that list out of the state; nothing else about the state matters. -/

section

variable {ε σ α β γ : Type}

/-- The program takes exactly `bytes` off the input and returns `value`. -/
def Reads (input : σ → List γ) (program : EStateM ε σ α) (bytes : List γ)
    (value : α) : Prop :=
  ∀ state rest, input state = bytes ++ rest →
    ∃ next, program state = .ok value next ∧ input next = rest

def readMany (program : EStateM ε σ α) : Nat → EStateM ε σ (List α)
  | 0 => pure []
  | count + 1 => do
      let value ← program
      let values ← readMany program count
      return value :: values

theorem bind_eq_of_ok {program : EStateM ε σ α} {next : α → EStateM ε σ β}
    {state middle : σ} {value : α} (ran : program state = .ok value middle) :
    (program >>= next) state = next value middle := by
  simp only [bind, EStateM.bind, ran]

theorem bind_eq_of_error {program : EStateM ε σ α} {next : α → EStateM ε σ β}
    {state middle : σ} {failure : ε} (ran : program state = .error failure middle) :
    (program >>= next) state = .error failure middle := by
  simp only [bind, EStateM.bind, ran]

theorem bind_eq_ok {program : EStateM ε σ α} {next : α → EStateM ε σ β}
    {state final : σ} {result : β} :
    (program >>= next) state = .ok result final ↔
      ∃ value middle, program state = .ok value middle ∧
        next value middle = .ok result final := by
  simp only [bind, EStateM.bind]
  cases program state <;> simp

namespace Reads

variable {input : σ → List γ} {program : EStateM ε σ α}
  {next : α → EStateM ε σ β} {first second : List γ} {value : α} {result : β}

theorem pure (value : α) :
    Reads input (Pure.pure value : EStateM ε σ α) [] value := by
  intro state rest held
  exact ⟨state, rfl, held⟩

theorem bind (head : Reads input program first value)
    (tail : Reads input (next value) second result) :
    Reads input (program >>= next) (first ++ second) result := by
  intro state rest held
  obtain ⟨middle, ranHead, leftHead⟩ :=
    head state (second ++ rest) (by rw [held, List.append_assoc])
  obtain ⟨final, ranTail, leftTail⟩ := tail middle rest leftHead
  exact ⟨final, (bind_eq_of_ok ranHead).trans ranTail, leftTail⟩

theorem bind_nil (head : Reads input program first value)
    (tail : Reads input (next value) [] result) :
    Reads input (program >>= next) first result := by
  simpa using head.bind tail

theorem nil_bind (head : Reads input program [] value)
    (tail : Reads input (next value) second result) :
    Reads input (program >>= next) second result :=
  head.bind tail

theorem ofExcept {outcome : Except ε α} (succeeded : outcome = .ok value) :
    Reads input (MonadExcept.ofExcept outcome : EStateM ε σ α) [] value := by
  subst succeeded
  exact Reads.pure value

/-- Reading one value after another takes the pieces off one after another. -/
theorem readMany {pieces : List (List γ)} {values : List α}
    (each : List.Forall₂ (Reads input program) pieces values) :
    Reads input (Foundation.readMany program values.length) pieces.flatten
      values := by
  induction each with
  | nil => exact Reads.pure []
  | cons head _ ih =>
      simp only [List.length_cons, Foundation.readMany, List.flatten_cons]
      exact head.bind (ih.bind_nil (Reads.pure _))

end Reads

end

end VpnTunnel.Foundation
