import Mathlib.Algebra.Order.Field.Rat
import Mathlib.Tactic.Linarith
import Mathlib.Tactic.Ring
import VpnTunnel.Foundation.Machine
import VpnTunnel.Foundation.Reservoir
import VpnTunnel.Server.RateLimit

namespace VpnTunnel.Server

open VpnTunnel.Foundation

/-! What the burst and the rate allow, as a law on the calls of one ip: their
times and answers, oldest first. -/

abbrev Calls := List (ℚ × Bool)

def granted (calls : Calls) : ℕ := calls.countP Prod.snd

@[simp] theorem granted_nil : granted [] = 0 := rfl

@[simp] theorem granted_append (first second : Calls) :
    granted (first ++ second) = granted first + granted second := by
  simp [granted]

/-- Every stretch of calls that ends with the call at `n` stays within the burst
and what the rate adds over the stretch. -/
def AllowedAt (rps burst : ℚ) (calls : Calls) (n : ℕ)
    (last : n < calls.length) : Prop :=
  ∀ k (first : k ≤ n),
    (granted ((calls.take n).drop k) : ℚ) + 1 ≤
      burst + rps * (calls[n].1 - calls[k].1)

def FollowsPolicy (rps burst : ℚ) (calls : Calls) : Prop :=
  ∀ n (last : n < calls.length),
    calls[n].2 = true ↔ AllowedAt rps burst calls n last

/-- The same for one more call, at `now`. -/
def AllowsNext (rps burst : ℚ) (calls : Calls) (now : ℚ) : Prop :=
  1 ≤ burst ∧ ∀ k (first : k < calls.length),
    (granted (calls.drop k) : ℚ) + 1 ≤ burst + rps * (now - calls[k].1)

theorem FollowsPolicy.nil (rps burst : ℚ) : FollowsPolicy rps burst [] := by
  intro n last
  simp at last

section Snoc

variable {rps burst : ℚ} {calls : Calls} {call : ℚ × Bool}

theorem allowedAt_snoc_left {n : ℕ} (inside : n < calls.length)
    (last : n < (calls ++ [call]).length) :
    AllowedAt rps burst (calls ++ [call]) n last ↔
      AllowedAt rps burst calls n inside := by
  apply forall_congr'
  intro k
  apply forall_congr'
  intro first
  rw [List.take_append_of_le_length inside.le,
    List.getElem_append_left inside,
    List.getElem_append_left (Nat.lt_of_le_of_lt first inside)]

theorem allowedAt_snoc_last (last : calls.length < (calls ++ [call]).length) :
    AllowedAt rps burst (calls ++ [call]) calls.length last ↔
      AllowsNext rps burst calls call.1 := by
  unfold AllowedAt AllowsNext
  simp only [List.take_left, List.getElem_concat_length]
  constructor
  · intro stretches
    constructor
    · simpa using stretches calls.length le_rfl
    · intro k first
      have bound := stretches k first.le
      rwa [List.getElem_append_left first] at bound
  · rintro ⟨whole, stretches⟩ k first
    rcases first.lt_or_eq with before | rfl
    · rw [List.getElem_append_left before]
      exact stretches k before
    · simpa using whole

theorem followsPolicy_snoc :
    FollowsPolicy rps burst (calls ++ [call]) ↔
      FollowsPolicy rps burst calls ∧
        (call.2 = true ↔ AllowsNext rps burst calls call.1) := by
  constructor
  · intro follows
    constructor
    · intro n inside
      have answer := follows n (by simp; omega)
      rwa [List.getElem_append_left inside,
        allowedAt_snoc_left inside] at answer
    · have answer := follows calls.length (by simp)
      rwa [List.getElem_concat_length rfl, allowedAt_snoc_last] at answer
  · rintro ⟨follows, answer⟩ n last
    rw [List.length_append, List.length_singleton] at last
    rcases Nat.lt_succ_iff_lt_or_eq.mp last with inside | rfl
    · rw [List.getElem_append_left inside, allowedAt_snoc_left inside]
      exact follows n inside
    · rw [List.getElem_concat_length rfl, allowedAt_snoc_last]
      exact answer

end Snoc

theorem FollowsPolicy.unique {rps burst : ℚ} {first second : Calls}
    (followsFirst : FollowsPolicy rps burst first)
    (followsSecond : FollowsPolicy rps burst second)
    (times : first.map Prod.fst = second.map Prod.fst) : first = second := by
  induction first using List.reverseRecOn generalizing second with
  | nil => simpa using times
  | append_singleton first call ih =>
      induction second using List.reverseRecOn with
      | nil => simp at times
      | append_singleton second other _ =>
          simp only [List.map_append, List.map_cons, List.map_nil] at times
          obtain ⟨before, now⟩ := List.append_inj' times rfl
          rw [followsPolicy_snoc] at followsFirst followsSecond
          have same : first = second :=
            ih followsFirst.1 followsSecond.1 before
          subst same
          have sameTime : call.1 = other.1 := by simpa using now
          have sameAnswer : call.2 = true ↔ other.2 = true := by
            rw [followsFirst.2, followsSecond.2, sameTime]
          have sameCall : call = other :=
            Prod.ext sameTime (Bool.eq_iff_iff.mpr sameAnswer)
          rw [sameCall]

def grantedWithin (start finish : ℚ) (calls : Calls) : ℕ :=
  calls.countP fun call => call.2 && decide (start ≤ call.1) &&
    decide (call.1 ≤ finish)

theorem grantedWithin_le_granted (start finish : ℚ) (calls : Calls) :
    grantedWithin start finish calls ≤ granted calls := by
  apply List.countP_mono_left
  intro call _ within
  simp only [Bool.and_eq_true] at within
  exact within.1.1

theorem grantedWithin_dropWhile (start finish : ℚ) (calls : Calls) :
    grantedWithin start finish calls =
      grantedWithin start finish
        (calls.dropWhile fun call => decide (call.1 < start)) := by
  induction calls with
  | nil => rfl
  | cons call rest ih =>
      by_cases early : call.1 < start
      · rw [List.dropWhile_cons_of_pos (by simpa using early), ← ih]
        simp [grantedWithin, not_le.mpr early]
      · rw [List.dropWhile_cons_of_neg (by simpa using early)]

/-- Under the policy a window grants at most the burst and what the rate adds
over the window. -/
theorem FollowsPolicy.grantedWithin_le {rps burst : ℚ} {calls : Calls}
    (follows : FollowsPolicy rps burst calls)
    (sorted : calls.Pairwise fun earlier later => earlier.1 ≤ later.1)
    (rate : 0 ≤ rps) (capacity : 0 ≤ burst) {start length : ℚ}
    (positive : 0 ≤ length) :
    (grantedWithin start (start + length) calls : ℚ) ≤ burst + rps * length := by
  have room : 0 ≤ rps * length := mul_nonneg rate positive
  induction calls using List.reverseRecOn with
  | nil => simpa [grantedWithin] using add_nonneg capacity room
  | append_singleton calls call ih =>
      rw [followsPolicy_snoc] at follows
      obtain ⟨sortedCalls, -, ordered⟩ := List.pairwise_append.mp sorted
      have split : grantedWithin start (start + length) (calls ++ [call]) =
          grantedWithin start (start + length) calls +
            grantedWithin start (start + length) [call] := by
        simp [grantedWithin]
      by_cases counted : call.2 = true ∧ start ≤ call.1 ∧
          call.1 ≤ start + length
      · obtain ⟨answer, after, before⟩ := counted
        obtain ⟨whole, stretches⟩ := follows.2.mp answer
        have one : grantedWithin start (start + length) [call] = 1 := by
          simp [grantedWithin, answer, after, before]
        -- The stretch that begins with the first call of the window.
        rw [split, one, grantedWithin_dropWhile, Nat.cast_add, Nat.cast_one]
        generalize late : calls.dropWhile (fun call =>
          decide (call.1 < start)) = inside
        cases inside with
        | nil =>
            simp only [grantedWithin, List.countP_nil, Nat.cast_zero]
            linarith
        | cons head tail =>
            have parts : calls.takeWhile (fun call =>
                decide (call.1 < start)) ++ head :: tail = calls := by
              rw [← late]
              exact List.takeWhile_append_dropWhile
            have opens : start ≤ head.1 := by
              have stops := List.head?_dropWhile_not
                (fun call : ℚ × Bool => decide (call.1 < start)) calls
              rw [late] at stops
              simpa using stops
            generalize calls.takeWhile (fun call =>
              decide (call.1 < start)) = early at parts
            subst parts
            have bound := stretches early.length (by simp)
            rw [List.drop_left, List.getElem_append_right le_rfl] at bound
            simp only [Nat.sub_self, List.getElem_cons_zero] at bound
            have fewer : (grantedWithin start (start + length)
                (head :: tail) : ℚ) ≤ granted (head :: tail) := by
              exact_mod_cast grantedWithin_le_granted start (start + length)
                (head :: tail)
            have spread : rps * (call.1 - head.1) ≤ rps * length :=
              mul_le_mul_of_nonneg_left (by linarith) rate
            linarith
      · have zero : grantedWithin start (start + length) [call] = 0 := by
          simp only [grantedWithin, List.countP_eq_zero, List.mem_singleton,
            forall_eq, Bool.and_eq_true, decide_eq_true_eq]
          rintro ⟨⟨answer, after⟩, before⟩
          exact counted ⟨answer, after, before⟩
        rw [split, zero, Nat.add_zero]
        exact ih follows.1 sortedCalls

end VpnTunnel.Server
