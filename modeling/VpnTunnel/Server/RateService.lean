import VpnTunnel.Server.RateCalls

namespace VpnTunnel.Server

open VpnTunnel.Foundation

/-! What the policy owes an ip that keeps asking: a refusal only shortly after
a grant, and grants in proportion to the time. -/

/-- The grants among the calls from index `first` up to, not including, `last`. -/
def grantsBetween (calls : Calls) (first last : ℕ) : ℕ :=
  granted ((calls.take last).drop first)

section Counting

variable {calls : Calls} {first last : ℕ}

@[simp] theorem grantsBetween_self : grantsBetween calls first first = 0 := by
  simp [grantsBetween]

theorem grantsBetween_succ (order : first ≤ last)
    (inside : last < calls.length) :
    grantsBetween calls first (last + 1) =
      grantsBetween calls first last + if calls[last].2 then 1 else 0 := by
  have room : first ≤ (calls.take last).length := by
    rw [List.length_take]
    omega
  rw [grantsBetween, List.take_succ_eq_append_getElem inside,
    List.drop_append_of_le_length room, granted_append]
  apply congrArg
  cases answer : calls[last].2 <;> simp [granted, answer]

theorem grantsBetween_mono {earlier : ℕ} (start : first ≤ earlier)
    (order : earlier ≤ last) (inside : last ≤ calls.length) :
    grantsBetween calls first earlier ≤ grantsBetween calls first last := by
  induction last, order using Nat.le_induction with
  | base => exact le_rfl
  | succ last order ih =>
      rw [grantsBetween_succ (start.trans order) inside]
      exact Nat.le_add_right_of_le (ih (Nat.le_of_succ_le inside))

theorem grantsBetween_last (order : first ≤ last)
    (inside : last ≤ calls.length) :
    grantsBetween calls first last = 0 ∨
      ∃ j, ∃ earlier : j < last, first ≤ j ∧ calls[j].2 = true ∧
        grantsBetween calls first last = grantsBetween calls first j + 1 := by
  induction last, order using Nat.le_induction with
  | base => exact .inl grantsBetween_self
  | succ last order ih =>
      have counted := grantsBetween_succ order inside
      cases answer : calls[last].2 with
      | true =>
          rw [answer, if_pos rfl] at counted
          exact .inr ⟨last, Nat.lt_succ_self last, order, answer, counted⟩
      | false =>
          rw [answer, if_neg Bool.false_ne_true, Nat.add_zero] at counted
          rw [counted]
          rcases ih (Nat.le_of_succ_le inside) with none | ⟨j, earlier, found⟩
          · exact .inl none
          · exact .inr ⟨j, Nat.lt_succ_of_lt earlier, found⟩

end Counting

section Service

variable {rps burst : ℚ} {calls : Calls}

/-- A call is refused only when an earlier call was granted less than the time
of one token before it. -/
theorem FollowsPolicy.refused_after_grant
    (follows : FollowsPolicy rps burst calls) (capacity : 1 ≤ burst)
    (rate : 0 ≤ rps)
    (sorted : calls.Pairwise fun earlier later => earlier.1 ≤ later.1) {n : ℕ}
    (last : n < calls.length) (refused : calls[n].2 = false) :
    ∃ j, ∃ earlier : j < n,
      calls[j].2 = true ∧ rps * (calls[n].1 - calls[j].1) < 1 := by
  have denied : ¬ AllowedAt rps burst calls n last := by
    rw [← follows n last, refused]
    exact Bool.false_ne_true
  simp only [AllowedAt, not_forall, not_le] at denied
  obtain ⟨k, first, exceeds⟩ := denied
  change _ < (grantsBetween calls k n : ℚ) + 1 at exceeds
  have passed : calls[k].1 ≤ calls[n].1 := by
    rcases first.lt_or_eq with before | rfl
    · exact List.pairwise_iff_getElem.mp sorted k n _ last before
    · exact le_rfl
  have spent : 0 ≤ rps * (calls[n].1 - calls[k].1) :=
    mul_nonneg rate (sub_nonneg.mpr passed)
  rcases grantsBetween_last first last.le with
    none | ⟨j, earlier, after, answer, counted⟩
  · rw [none, Nat.cast_zero] at exceeds
    linarith
  · refine ⟨j, earlier, answer, ?_⟩
    -- The policy held at the grant `j` with the same beginning `k`.
    have bound := (follows j (earlier.trans last)).mp answer k after
    change (grantsBetween calls k j : ℚ) + 1 ≤ _ at bound
    rw [counted, Nat.cast_add, Nat.cast_one] at exceeds
    have split : rps * (calls[n].1 - calls[k].1) =
        rps * (calls[n].1 - calls[j].1) + rps * (calls[j].1 - calls[k].1) := by
      ring
    linarith

/-- An ip that asks again within `gap` of each call is granted one call in each
token time and gap. -/
theorem FollowsPolicy.grants_in_proportion
    (follows : FollowsPolicy rps burst calls) (capacity : 1 ≤ burst)
    (rate : 0 ≤ rps)
    (sorted : calls.Pairwise fun earlier later => earlier.1 ≤ later.1)
    {gap : ℚ} (nonneg : 0 ≤ gap) {i n : ℕ} (order : i ≤ n)
    (last : n < calls.length)
    (polling : ∀ k, i ≤ k → ∀ inside : k < n,
      calls[k + 1].1 - calls[k].1 ≤ gap) :
    rps * (calls[n].1 - calls[i].1) <
      grantsBetween calls i (n + 1) * (1 + rps * gap) + 1 := by
  have token : 1 ≤ 1 + rps * gap :=
    le_add_of_nonneg_right (mul_nonneg rate nonneg)
  induction n using Nat.strong_induction_on with
  | _ n ih =>
      -- A grant at `j` closes the bound for the calls up to it.
      have atGrant : ∀ j (after : i ≤ j) (inside : j ≤ n),
          calls[j].2 = true → rps * (calls[j].1 - calls[i].1) <
            grantsBetween calls i (j + 1) * (1 + rps * gap) := by
        intro j after inside answer
        have counted := grantsBetween_succ after (inside.trans_lt last)
        rw [answer, if_pos rfl] at counted
        rw [counted, Nat.cast_add, Nat.cast_one]
        rcases after.lt_or_eq with later | rfl
        · obtain ⟨m, rfl⟩ := Nat.exists_eq_add_of_lt later
          have before := ih (i + m) (by omega) (by omega) (by omega)
            (fun k start inner => polling k start (by omega))
          have wait := mul_le_mul_of_nonneg_left
            (polling (i + m) (by omega) (by omega)) rate
          have split : rps * (calls[i + m + 1].1 - calls[i].1) =
              rps * (calls[i + m + 1].1 - calls[i + m].1) +
                rps * (calls[i + m].1 - calls[i].1) := by
            ring
          linarith
        · rw [grantsBetween_self, sub_self, mul_zero, Nat.cast_zero]
          linarith
      cases answer : calls[n].2 with
      | true => exact (atGrant n order le_rfl answer).trans (lt_add_one _)
      | false =>
          obtain ⟨j, earlier, granted, recent⟩ :=
            follows.refused_after_grant capacity rate sorted last answer
          have split : rps * (calls[n].1 - calls[i].1) =
              rps * (calls[n].1 - calls[j].1) +
                rps * (calls[j].1 - calls[i].1) := by
            ring
          rcases Nat.lt_or_ge j i with outside | after
          · have passed : calls[j].1 ≤ calls[i].1 :=
              List.pairwise_iff_getElem.mp sorted j i _ _ outside
            have spent : rps * (calls[j].1 - calls[i].1) ≤ 0 :=
              mul_nonpos_of_nonneg_of_nonpos rate (sub_nonpos.mpr passed)
            have counted : (0 : ℚ) ≤
                grantsBetween calls i (n + 1) * (1 + rps * gap) :=
              mul_nonneg (Nat.cast_nonneg _) (zero_le_one.trans token)
            linarith
          · have bound := atGrant j after earlier.le granted
            have more : (grantsBetween calls i (j + 1) : ℚ) ≤
                grantsBetween calls i (n + 1) := by
              exact_mod_cast grantsBetween_mono (after.trans (Nat.le_succ j))
                (Nat.succ_le_succ earlier.le) last
            have scaled := mul_le_mul_of_nonneg_right more
              (zero_le_one.trans token)
            linarith

end Service

/-- The rate limiter starves nobody, whatever the other callers do: an ip is
refused only within the time of one token after a grant to it, and an ip that
keeps asking within `gap` of its last answer is granted calls in proportion to
the time that passes. -/
theorem check_rate_serves {rps burst : ℚ} (rate : 0 ≤ rps)
    (capacity : 1 ≤ burst) {maxPerIp maxTotal : ℤ} {idleTimeout start : ℚ}
    {events : List LimiterEvent} {s : LimiterState}
    (reached : run limiterStep (.initial (RateLimiter.create rps burst maxPerIp
      maxTotal idleTimeout) start) events = some s) (ip : Ip) :
    (∀ n (last : n < (s.callsOf ip).length), (s.callsOf ip)[n].2 = false →
      ∃ j, ∃ earlier : j < n, (s.callsOf ip)[j].2 = true ∧
        rps * ((s.callsOf ip)[n].1 - (s.callsOf ip)[j].1) < 1) ∧
    ∀ gap, 0 ≤ gap → ∀ i n (order : i ≤ n) (last : n < (s.callsOf ip).length),
      (∀ k, i ≤ k → ∀ inside : k < n,
        (s.callsOf ip)[k + 1].1 - (s.callsOf ip)[k].1 ≤ gap) →
      rps * ((s.callsOf ip)[n].1 - (s.callsOf ip)[i].1) <
        grantsBetween (s.callsOf ip) i (n + 1) * (1 + rps * gap) + 1 := by
  have tracks := run_tracks rate (zero_le_one.trans capacity) reached
  obtain ⟨follows, sorted⟩ := tracks.calls ip
  constructor
  · intro n last refused
    exact follows.refused_after_grant capacity rate sorted last refused
  · intro gap nonneg i n order last polling
    exact follows.grants_in_proportion capacity rate sorted nonneg order last
      polling

theorem check_rate_serves_refused :
    ∃ s, run limiterStep (.initial (RateLimiter.create 1 1 5 50 300) 0)
        [.findBucket 0 "10.0.0.1" 0, .consume 0 0,
          .findBucket 1 "10.0.0.1" 0, .consume 1 (1 / 2)] = some s ∧
      s.callsOf "10.0.0.1" = [(0, true), (1 / 2, false)] ∧
      ∃ last : 1 < (s.callsOf "10.0.0.1").length,
        (s.callsOf "10.0.0.1")[1].2 = false ∧
        ∃ j, ∃ earlier : j < 1, (s.callsOf "10.0.0.1")[j].2 = true ∧
          1 * ((s.callsOf "10.0.0.1")[1].1 - (s.callsOf "10.0.0.1")[j].1) <
            1 := by
  have ran : (run limiterStep (.initial (RateLimiter.create 1 1 5 50 300) 0)
      [.findBucket 0 "10.0.0.1" 0, .consume 0 0,
        .findBucket 1 "10.0.0.1" 0, .consume 1 (1 / 2)]).map
        (fun s => s.callsOf "10.0.0.1") = some [(0, true), (1 / 2, false)] := by
    decide +kernel
  obtain ⟨s, reached, calls⟩ := Option.map_eq_some_iff.mp ran
  have last : 1 < (s.callsOf "10.0.0.1").length := by
    rw [calls]
    exact Nat.one_lt_two
  have refused : (s.callsOf "10.0.0.1")[1].2 = false := by
    simp only [calls, List.getElem_cons_succ, List.getElem_cons_zero]
  exact ⟨s, reached, calls, last, refused,
    (check_rate_serves zero_le_one le_rfl reached "10.0.0.1").1 1 last refused⟩

end VpnTunnel.Server
