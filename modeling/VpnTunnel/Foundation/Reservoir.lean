import Mathlib.Algebra.Order.Group.MinMax
import Mathlib.Algebra.BigOperators.Group.List.Basic
import Mathlib.Data.List.Induction
import Mathlib.Tactic.Abel

namespace VpnTunnel.Foundation

/-! A reservoir of bounded capacity that fills with the advance of a clock and
is drawn from at the clock readings of a history, oldest first. -/

section

variable {α : Type*}

/-- The clock reading of the last draw, `start` before the first one. -/
def lastReading (start : α) (history : List (α × α)) : α :=
  (history.getLast?.map Prod.fst).getD start

@[simp] theorem lastReading_nil (start : α) : lastReading start [] = start := rfl

@[simp] theorem lastReading_snoc (start : α) (history : List (α × α))
    (draw : α × α) : lastReading start (history ++ [draw]) = draw.1 := by
  simp [lastReading]

end

section

variable {α : Type*} [AddCommGroup α]

def drawn (history : List (α × α)) : α := (history.map Prod.snd).sum

@[simp] theorem drawn_nil : drawn ([] : List (α × α)) = 0 := rfl

@[simp] theorem drawn_append (first second : List (α × α)) :
    drawn (first ++ second) = drawn first + drawn second := by
  simp [drawn]

@[simp] theorem drawn_singleton (draw : α × α) : drawn [draw] = draw.2 := by
  simp [drawn]

variable [LinearOrder α]

/-- What the reservoir holds at `now` before the draw made there. -/
def refill (capacity last level now : α) : α :=
  min capacity (level + (now - last))

/-- What the reservoir holds after the draws of the history. -/
def levelAfter (capacity start : α) (history : List (α × α)) : α :=
  (history.foldl
    (fun state draw =>
      (draw.1, refill capacity state.1 state.2 draw.1 - draw.2))
    (start, capacity)).2

@[simp] theorem levelAfter_nil (capacity start : α) :
    levelAfter capacity start [] = capacity := rfl

theorem foldl_reading (capacity start : α) (history : List (α × α)) :
    (history.foldl
      (fun state draw =>
        (draw.1, refill capacity state.1 state.2 draw.1 - draw.2))
      (start, capacity)).1 = lastReading start history := by
  rcases List.eq_nil_or_concat history with rfl | ⟨history, draw, rfl⟩
  · rfl
  · rw [List.concat_eq_append, List.foldl_append, lastReading_snoc]
    rfl

@[simp] theorem levelAfter_snoc (capacity start : α) (history : List (α × α))
    (draw : α × α) :
    levelAfter capacity start (history ++ [draw]) =
      refill capacity (lastReading start history)
        (levelAfter capacity start history) draw.1 - draw.2 := by
  simp only [levelAfter, List.foldl_append, List.foldl_cons, List.foldl_nil]
  rw [foldl_reading]

variable [IsOrderedAddMonoid α]

/-- The clamped level, unrolled: an amount is available at `now` exactly when
every stretch of the history leaves room for it under a full reservoir at the
start of that stretch. -/
theorem le_refill_iff {capacity start now amount : α}
    {history : List (α × α)}
    (begins : ∀ draw ∈ history, start ≤ draw.1) (after : start ≤ now) :
    amount ≤ refill capacity (lastReading start history)
        (levelAfter capacity start history) now ↔
      amount ≤ capacity ∧ ∀ k (inside : k < history.length),
        drawn (history.drop k) + amount ≤ capacity + (now - history[k].1) := by
  induction history using List.reverseRecOn generalizing now amount with
  | nil =>
      have grows : capacity ≤ capacity + (now - start) :=
        le_add_of_nonneg_right (sub_nonneg.mpr after)
      simp [refill, min_eq_left grows]
  | append_singleton history draw ih =>
      have beginsHistory : ∀ earlier ∈ history, start ≤ earlier.1 :=
        fun earlier member => begins earlier (List.mem_append_left _ member)
      have beginsDraw : start ≤ draw.1 := begins draw (by simp)
      have shift : amount ≤ levelAfter capacity start (history ++ [draw]) +
            (now - draw.1) ↔
          draw.2 + amount - (now - draw.1) ≤ refill capacity
            (lastReading start history) (levelAfter capacity start history)
            draw.1 := by
        rw [levelAfter_snoc, ← sub_le_iff_le_add, le_sub_iff_add_le]
        apply Eq.to_iff
        apply congrArg (· ≤ _)
        abel
      rw [refill, lastReading_snoc, le_min_iff, shift,
        ih beginsHistory beginsDraw]
      apply and_congr_right
      intro _
      constructor
      · rintro ⟨recent, older⟩ k inside
        rw [List.length_append, List.length_singleton] at inside
        rcases Nat.lt_succ_iff_lt_or_eq.mp inside with before | rfl
        · have bound := older k before
          rw [List.drop_append_of_le_length before.le,
            List.getElem_append_left before, drawn_append, drawn_singleton]
          have moved := add_le_add_left bound (now - draw.1)
          calc drawn (history.drop k) + draw.2 + amount
              = drawn (history.drop k) + (draw.2 + amount - (now - draw.1)) +
                  (now - draw.1) := by abel
            _ ≤ capacity + (draw.1 - history[k].1) + (now - draw.1) := moved
            _ = capacity + (now - history[k].1) := by abel
        · simpa [sub_le_iff_le_add] using recent
      · intro stretches
        constructor
        · simpa [sub_le_iff_le_add] using stretches history.length (by simp)
        · intro k before
          have bound := stretches k (by simp; omega)
          rw [List.drop_append_of_le_length before.le,
            List.getElem_append_left before, drawn_append,
            drawn_singleton] at bound
          have moved := add_le_add_left bound (-(now - draw.1))
          calc drawn (history.drop k) + (draw.2 + amount - (now - draw.1))
              = drawn (history.drop k) + draw.2 + amount +
                  -(now - draw.1) := by abel
            _ ≤ capacity + (now - history[k].1) + -(now - draw.1) := moved
            _ = capacity + (draw.1 - history[k].1) := by abel

end

end VpnTunnel.Foundation
