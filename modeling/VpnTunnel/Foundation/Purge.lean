import VpnTunnel.Foundation.Machine

namespace VpnTunnel.Foundation

/-! What is left of a run when the steps that an observer has no part in are taken
out. -/

section

variable {State Event Other Kept : Type*}

/-- The events of the run that are kept, renamed by `keep`. -/
def purge (step : State → Event → Option State)
    (keep : State → Event → Option Kept) : State → List Event → List Kept
  | _, [] => []
  | state, event :: rest =>
      (keep state event).toList ++
        match step state event with
        | some next => purge step keep next rest
        | none => []

variable {step : State → Event → Option State}
  {small : Other → Kept → Option Other} {keep : State → Event → Option Kept}
  {guard : State → Event → Prop}

/-- A kept step is mirrored and any other one is not seen: then what is left of a
run is a run, and it ends in a state that is related to the end of the whole. -/
theorem run_purge (relates : State → Other → Prop)
    (mirrored : ∀ state other event next kept, relates state other →
      guard state event → step state event = some next →
      keep state event = some kept →
      ∃ also, small other kept = some also ∧ relates next also)
    (unseen : ∀ state other event next, relates state other →
      step state event = some next → keep state event = none →
      relates next other)
    {state final : State} {other : Other} {events : List Event}
    (along : Along step guard state events)
    (reached : run step state events = some final)
    (related : relates state other) :
    ∃ also, run small other (purge step keep state events) = some also ∧
      relates final also := by
  induction events generalizing state other with
  | nil =>
      cases reached
      exact ⟨other, rfl, related⟩
  | cons event rest ih =>
      obtain ⟨next, stepped, tail⟩ := run_cons_eq_some.mp reached
      rw [purge, stepped]
      cases kept : keep state event with
      | none =>
          exact ih (along.2 next stepped) tail
            (unseen state other event next related stepped kept)
      | some renamed =>
          obtain ⟨also, mirror, still⟩ :=
            mirrored state other event next renamed related along.1 stepped kept
          obtain ⟨final', reached', related'⟩ :=
            ih (along.2 next stepped) tail still
          refine ⟨final', ?_, related'⟩
          change run small other (renamed :: _) = some final'
          rw [run_cons, mirror]
          exact reached'

end

/-! Places in a filtered list. -/

section

variable {α : Type*} {p : α → Bool} {items : List α} {index : ℕ} {item : α}

/-- Where the item at `index` is among those that are kept. -/
def placeAmong (p : α → Bool) (items : List α) (index : ℕ) : ℕ :=
  (items.take index).countP p

theorem getElem?_filter_placeAmong (found : items[index]? = some item)
    (kept : p item = true) :
    (items.filter p)[placeAmong p items index]? = some item := by
  induction items generalizing index with
  | nil => cases found
  | cons first rest ih =>
      cases index with
      | zero =>
          cases found
          rw [List.filter_cons_of_pos kept]
          rfl
      | succ index =>
          have here : rest[index]? = some item := found
          rw [placeAmong, List.take_succ_cons]
          cases keeps : p first with
          | true =>
              rw [List.filter_cons_of_pos keeps, List.countP_cons_of_pos keeps,
                List.getElem?_cons_succ]
              exact ih here
          | false =>
              have drops : ¬ p first = true := by simp [keeps]
              rw [List.filter_cons_of_neg drops, List.countP_cons_of_neg drops]
              exact ih here

theorem filter_set_of_pos (found : items[index]? = some item)
    (kept : p item = true) {moved : α} (still : p moved = true) :
    (items.set index moved).filter p =
      (items.filter p).set (placeAmong p items index) moved := by
  induction items generalizing index with
  | nil => cases found
  | cons first rest ih =>
      cases index with
      | zero =>
          cases found
          rw [List.set_cons_zero, List.filter_cons_of_pos still,
            List.filter_cons_of_pos kept]
          rfl
      | succ index =>
          have here : rest[index]? = some item := found
          rw [placeAmong, List.take_succ_cons, List.set_cons_succ]
          cases keeps : p first with
          | true =>
              rw [List.filter_cons_of_pos keeps, List.filter_cons_of_pos keeps,
                List.countP_cons_of_pos keeps, List.set_cons_succ, ih here]
              rfl
          | false =>
              have drops : ¬ p first = true := by simp [keeps]
              rw [List.filter_cons_of_neg drops, List.filter_cons_of_neg drops,
                List.countP_cons_of_neg drops]
              exact ih here

theorem filter_set_of_neg (found : items[index]? = some item)
    (dropped : p item = false) {moved : α} (still : p moved = false) :
    (items.set index moved).filter p = items.filter p := by
  induction items generalizing index with
  | nil => cases found
  | cons first rest ih =>
      cases index with
      | zero =>
          cases found
          rw [List.set_cons_zero, List.filter_cons_of_neg (by simp [still]),
            List.filter_cons_of_neg (by simp [dropped])]
      | succ index =>
          rw [List.set_cons_succ, List.filter_cons, List.filter_cons, ih found]

end

end VpnTunnel.Foundation
