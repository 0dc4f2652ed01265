import VpnTunnel.Server.RatePolicy

namespace VpnTunnel.Server

open VpnTunnel.Foundation

/-! The token bucket is the reservoir of its own calls: the clock is scaled by
the rate and each granted call draws one token. -/

def draws (rps : ℚ) (calls : Calls) : List (ℚ × ℚ) :=
  calls.map fun call => (rps * call.1, if call.2 then 1 else 0)

@[simp] theorem draws_length (rps : ℚ) (calls : Calls) :
    (draws rps calls).length = calls.length := List.length_map _

theorem draws_drop (rps : ℚ) (calls : Calls) (k : ℕ) :
    (draws rps calls).drop k = draws rps (calls.drop k) := List.map_drop.symm

@[simp] theorem draws_snoc (rps : ℚ) (calls : Calls) (call : ℚ × Bool) :
    draws rps (calls ++ [call]) =
      draws rps calls ++ [(rps * call.1, if call.2 then 1 else 0)] := by
  simp [draws]

theorem drawn_draws (rps : ℚ) (calls : Calls) :
    drawn (draws rps calls) = granted calls := by
  induction calls using List.reverseRecOn with
  | nil => rfl
  | append_singleton calls call ih =>
      rw [draws_snoc, drawn_append, ih, granted_append, drawn_singleton]
      cases answer : call.2 <;> simp [granted, answer]

structure BucketTracks (rps burst start : ℚ) (bucket : TokenBucket)
    (calls : Calls) : Prop where
  rate : bucket.rate = rps
  capacity : bucket.capacity = burst
  begins : ∀ call ∈ calls, start ≤ call.1
  began : start ≤ bucket.last
  latest : ∀ call ∈ calls, call.1 ≤ bucket.last
  sorted : calls.Pairwise fun earlier later => earlier.1 ≤ later.1
  last : rps * bucket.last = lastReading (rps * start) (draws rps calls)
  level : bucket.tokens = levelAfter burst (rps * start) (draws rps calls)
  nonneg : 0 ≤ bucket.tokens
  bounded : bucket.tokens ≤ burst
  policy : FollowsPolicy rps burst calls

theorem BucketTracks.create {rps burst : ℚ} (capacity : 0 ≤ burst) (now : ℚ) :
    BucketTracks rps burst now (TokenBucket.create rps burst now) [] where
  rate := rfl
  capacity := rfl
  begins := by simp
  began := le_rfl
  latest := by simp
  sorted := .nil
  last := rfl
  level := rfl
  nonneg := capacity
  bounded := le_rfl
  policy := .nil rps burst

section Consume

variable {rps burst start now : ℚ} {bucket : TokenBucket} {calls : Calls}

theorem BucketTracks.refilled
    (tracks : BucketTracks rps burst start bucket calls) (now : ℚ) :
    min bucket.capacity (bucket.tokens + (now - bucket.last) * bucket.rate) =
      refill burst (lastReading (rps * start) (draws rps calls))
        (levelAfter burst (rps * start) (draws rps calls)) (rps * now) := by
  rw [refill, ← tracks.last, ← tracks.level, tracks.rate, tracks.capacity]
  apply congrArg
  ring

/-- The refilled bucket holds a token exactly when the policy allows the call. -/
theorem BucketTracks.allowed_iff
    (tracks : BucketTracks rps burst start bucket calls) (rate : 0 ≤ rps)
    (later : bucket.last ≤ now) :
    1 ≤ min bucket.capacity
        (bucket.tokens + (now - bucket.last) * bucket.rate) ↔
      AllowsNext rps burst calls now := by
  have begins : ∀ draw ∈ draws rps calls, rps * start ≤ draw.1 := by
    intro draw member
    obtain ⟨call, inside, rfl⟩ := List.mem_map.mp member
    exact mul_le_mul_of_nonneg_left (tracks.begins call inside) rate
  have after : rps * start ≤ rps * now :=
    mul_le_mul_of_nonneg_left (tracks.began.trans later) rate
  rw [tracks.refilled, le_refill_iff begins after, AllowsNext]
  apply and_congr_right
  intro _
  have reading (k : ℕ) (first : k < (draws rps calls).length)
      (inside : k < calls.length) :
      (draws rps calls)[k].1 = rps * calls[k].1 := by
    simp [draws]
  constructor
  · intro stretches k first
    have bound := stretches k (by simpa using first)
    rw [draws_drop, drawn_draws, reading k _ first] at bound
    linarith
  · intro stretches k first
    have inside : k < calls.length := by simpa using first
    have bound := stretches k inside
    rw [draws_drop, drawn_draws, reading k first inside]
    linarith

theorem consume_eq (bucket : TokenBucket) (now : ℚ) :
    let level := min bucket.capacity
      (bucket.tokens + (now - bucket.last) * bucket.rate)
    bucket.consume now 1 =
      (decide (1 ≤ level), { bucket with
        tokens := level - if decide (1 ≤ level) then 1 else 0
        last := now }) := by
  intro level
  unfold TokenBucket.consume
  by_cases enough : 1 ≤ level
  · simp [level, enough]
  · simp [level, enough]

theorem BucketTracks.consume
    (tracks : BucketTracks rps burst start bucket calls) (rate : 0 ≤ rps)
    (capacity : 0 ≤ burst) (later : bucket.last ≤ now) :
    BucketTracks rps burst start (bucket.consume now 1).2
        (calls ++ [(now, (bucket.consume now 1).1)]) ∧
      (bucket.consume now 1).2.last = now := by
  have allowed := tracks.allowed_iff rate later
  have refilled := tracks.refilled now
  have gained : 0 ≤ (now - bucket.last) * bucket.rate := by
    rw [tracks.rate]
    exact mul_nonneg (sub_nonneg.mpr later) rate
  have full : 0 ≤ min bucket.capacity
      (bucket.tokens + (now - bucket.last) * bucket.rate) := by
    rw [tracks.capacity]
    exact le_min capacity (add_nonneg tracks.nonneg gained)
  have clamped : min bucket.capacity
      (bucket.tokens + (now - bucket.last) * bucket.rate) ≤ burst := by
    rw [← tracks.capacity]
    exact min_le_left _ _
  rw [consume_eq]
  generalize min bucket.capacity
    (bucket.tokens + (now - bucket.last) * bucket.rate) = level at *
  refine ⟨?_, rfl⟩
  exact
    { rate := tracks.rate
      capacity := tracks.capacity
      begins := by
        intro call member
        rcases List.mem_append.mp member with before | here
        · exact tracks.begins call before
        · rw [List.mem_singleton.mp here]
          exact tracks.began.trans later
      began := tracks.began.trans later
      latest := by
        intro call member
        rcases List.mem_append.mp member with before | here
        · exact (tracks.latest call before).trans later
        · rw [List.mem_singleton.mp here]
      sorted := by
        rw [List.pairwise_append]
        refine ⟨tracks.sorted, List.pairwise_singleton _ _, ?_⟩
        intro earlier before call here
        rw [List.mem_singleton.mp here]
        exact (tracks.latest earlier before).trans later
      last := by simp
      level := by
        rw [draws_snoc, levelAfter_snoc]
        exact congrArg (· - _) refilled
      nonneg := by
        by_cases enough : 1 ≤ level
        · simp [enough]
        · simpa [enough] using full
      bounded := by
        by_cases enough : 1 ≤ level
        · simp only [enough, decide_true, if_true]
          linarith
        · simpa [enough] using clamped
      policy := by
        rw [followsPolicy_snoc]
        exact ⟨tracks.policy, by simpa using allowed⟩ }

end Consume

/-! Any number of callers of one limiter.  Each event is one section under a
lock with the clock reading made in it; the clock never goes back. -/

inductive LimiterEvent
  | findBucket (caller : ℕ) (ip : Ip) (now : ℚ)
  | consume (caller : ℕ) (now : ℚ)
  | tryAddConnection (ip : Ip) (now : ℚ)
  | removeConnection (ip : Ip)
  | touch (ip : Ip) (now : ℚ)

structure LimiterState where
  limiter : RateLimiter
  clock : ℚ
  /-- The ip whose bucket a caller holds between the sections of `check_rate`. -/
  holding : ℕ → Option Ip
  /-- The finished `check_rate` calls in the order of the buckets' locks. -/
  answers : List (Ip × ℚ × Bool)

namespace LimiterState

def initial (limiter : RateLimiter) (clock : ℚ) : LimiterState :=
  { limiter, clock, holding := fun _ => none, answers := [] }

def callsOf (s : LimiterState) (ip : Ip) : Calls :=
  (s.answers.filter fun answer => answer.1 = ip).map Prod.snd

section Snoc

variable {s : LimiterState} {limiter : RateLimiter} {clock : ℚ}
  {holding : ℕ → Option Ip} {ip other : Ip} {call : ℚ × Bool}

theorem callsOf_snoc_self :
    callsOf ⟨limiter, clock, holding, s.answers ++ [(ip, call)]⟩ ip =
      s.callsOf ip ++ [call] := by
  simp [callsOf]

theorem callsOf_snoc_ne (different : ip ≠ other) :
    callsOf ⟨limiter, clock, holding, s.answers ++ [(ip, call)]⟩ other =
      s.callsOf other := by
  simp [callsOf, different]

end Snoc

end LimiterState

def limiterStep (s : LimiterState) : LimiterEvent → Option LimiterState
  | .findBucket caller ip now =>
      if s.clock ≤ now ∧ s.holding caller = none then
        some { s with
          limiter := s.limiter.findBucket ip now
          clock := now
          holding := Function.update s.holding caller (some ip) }
      else none
  | .consume caller now =>
      match s.holding caller with
      | none => none
      | some ip =>
          if s.clock ≤ now then
            let (allowed, limiter) := s.limiter.consumeFor ip now
            some { s with
              limiter
              clock := now
              holding := Function.update s.holding caller none
              answers := s.answers ++ [(ip, now, allowed)] }
          else none
  | .tryAddConnection ip now =>
      if s.clock ≤ now then
        some { s with
          limiter := (s.limiter.tryAddConnection ip now).2
          clock := now }
      else none
  | .removeConnection ip =>
      some { s with limiter := s.limiter.removeConnection ip }
  | .touch ip now =>
      if s.clock ≤ now then
        some { s with limiter := s.limiter.touch ip now, clock := now }
      else none

/-- Buckets and calls of every ip belong together. -/
structure LimiterState.Tracks (rps burst : ℚ) (s : LimiterState) : Prop where
  rate : s.limiter.rps = rps
  capacity : s.limiter.burst = burst
  held : ∀ caller ip, s.holding caller = some ip → ip ∈ s.limiter.buckets
  unused : ∀ ip, s.limiter.buckets.lookup ip = none → s.callsOf ip = []
  tracked : ∀ ip bucket, s.limiter.buckets.lookup ip = some bucket →
    bucket.last ≤ s.clock ∧
      ∃ start, BucketTracks rps burst start bucket (s.callsOf ip)

namespace LimiterState.Tracks

variable {rps burst : ℚ} {s : LimiterState}

theorem of_same_buckets (tracks : s.Tracks rps burst) {limiter : RateLimiter}
    {now : ℚ} (later : s.clock ≤ now)
    (sameRps : limiter.rps = s.limiter.rps)
    (sameBurst : limiter.burst = s.limiter.burst)
    (sameBuckets : limiter.buckets = s.limiter.buckets) :
    LimiterState.Tracks rps burst { s with limiter, clock := now } where
  rate := sameRps.trans tracks.rate
  capacity := sameBurst.trans tracks.capacity
  held := by
    intro caller ip holds
    rw [sameBuckets]
    exact tracks.held caller ip holds
  unused := by
    intro ip absent
    rw [sameBuckets] at absent
    exact tracks.unused ip absent
  tracked := by
    intro ip bucket found
    rw [sameBuckets] at found
    obtain ⟨before, start, bucketTracks⟩ := tracks.tracked ip bucket found
    exact ⟨before.trans later, start, bucketTracks⟩

theorem findBucket (tracks : s.Tracks rps burst) (capacity : 0 ≤ burst)
    {caller : ℕ} {ip : Ip} {now : ℚ} (later : s.clock ≤ now) :
    LimiterState.Tracks rps burst { s with
      limiter := s.limiter.findBucket ip now
      clock := now
      holding := Function.update s.holding caller (some ip) } := by
  have heldAfter : ∀ other otherIp,
      Function.update s.holding caller (some ip) other = some otherIp →
        otherIp = ip ∨ otherIp ∈ s.limiter.buckets := by
    intro other otherIp holds
    by_cases same : other = caller
    · subst same
      rw [Function.update_self] at holds
      exact .inl (Option.some.inj holds).symm
    · rw [Function.update_of_ne same] at holds
      exact .inr (tracks.held other otherIp holds)
  by_cases present : ip ∈ s.limiter.buckets
  · have unchanged : s.limiter.findBucket ip now = s.limiter := by
      simp [RateLimiter.findBucket, present]
    rw [unchanged]
    have base := tracks.of_same_buckets later rfl rfl rfl
    refine { base with held := ?_ }
    intro other otherIp holds
    rcases heldAfter other otherIp holds with rfl | inside
    · exact present
    · exact inside
  · have created : (s.limiter.findBucket ip now).buckets =
        s.limiter.buckets.insert ip
          (TokenBucket.create s.limiter.rps s.limiter.burst now) := by
      simp [RateLimiter.findBucket, present]
    have sameRps : (s.limiter.findBucket ip now).rps = s.limiter.rps := by
      simp [RateLimiter.findBucket, present]
    have sameBurst : (s.limiter.findBucket ip now).burst = s.limiter.burst := by
      simp [RateLimiter.findBucket, present]
    exact
      { rate := sameRps.trans tracks.rate
        capacity := sameBurst.trans tracks.capacity
        held := by
          intro other otherIp holds
          rw [created, AList.mem_insert]
          exact heldAfter other otherIp holds
        unused := by
          intro otherIp absent
          rw [created, AList.lookup_insert_eq_none] at absent
          exact tracks.unused otherIp absent.2
        tracked := by
          intro otherIp bucket found
          rw [created] at found
          by_cases same : otherIp = ip
          · subst same
            rw [AList.lookup_insert, Option.some.injEq] at found
            subst found
            have empty : s.callsOf otherIp = [] :=
              tracks.unused otherIp (AList.lookup_eq_none.mpr present)
            refine ⟨le_rfl, now, ?_⟩
            rw [tracks.rate, tracks.capacity]
            change BucketTracks rps burst now _ (s.callsOf otherIp)
            rw [empty]
            exact .create capacity now
          · rw [AList.lookup_insert_ne same] at found
            obtain ⟨before, start, bucketTracks⟩ :=
              tracks.tracked otherIp bucket found
            exact ⟨before.trans later, start, bucketTracks⟩ }

theorem consume (tracks : s.Tracks rps burst) (rate : 0 ≤ rps)
    (capacity : 0 ≤ burst) {caller : ℕ} {ip : Ip} {now : ℚ}
    (holds : s.holding caller = some ip) (later : s.clock ≤ now) :
    LimiterState.Tracks rps burst { s with
      limiter := (s.limiter.consumeFor ip now).2
      clock := now
      holding := Function.update s.holding caller none
      answers := s.answers ++ [(ip, now, (s.limiter.consumeFor ip now).1)] } := by
  obtain ⟨bucket, found⟩ :=
    Option.isSome_iff_exists.mp
      (AList.lookup_isSome.mpr (tracks.held caller ip holds))
  obtain ⟨before, start, bucketTracks⟩ := tracks.tracked ip bucket found
  obtain ⟨consumed, lastNow⟩ :=
    bucketTracks.consume rate capacity (before.trans later)
  have result : s.limiter.consumeFor ip now =
      ((bucket.consume now 1).1, { s.limiter with
        buckets := s.limiter.buckets.insert ip (bucket.consume now 1).2 }) := by
    simp [RateLimiter.consumeFor, found]
  rw [result]
  exact
    { rate := tracks.rate
      capacity := tracks.capacity
      held := by
        intro other otherIp holdsOther
        change Function.update s.holding caller none other = some otherIp
          at holdsOther
        rw [AList.mem_insert]
        by_cases same : other = caller
        · subst same
          simp at holdsOther
        · rw [Function.update_of_ne same] at holdsOther
          exact .inr (tracks.held other otherIp holdsOther)
      unused := by
        intro otherIp absent
        rw [AList.lookup_insert_eq_none] at absent
        rw [callsOf_snoc_ne (Ne.symm absent.1)]
        exact tracks.unused otherIp absent.2
      tracked := by
        intro otherIp other foundOther
        by_cases same : otherIp = ip
        · subst same
          rw [AList.lookup_insert, Option.some.injEq] at foundOther
          subst foundOther
          rw [callsOf_snoc_self]
          exact ⟨lastNow.le, start, consumed⟩
        · rw [AList.lookup_insert_ne same] at foundOther
          rw [callsOf_snoc_ne (Ne.symm same)]
          obtain ⟨beforeOther, startOther, tracksOther⟩ :=
            tracks.tracked otherIp other foundOther
          exact ⟨beforeOther.trans later, startOther, tracksOther⟩ }

end LimiterState.Tracks

theorem limiterStep_tracks {rps burst : ℚ} (rate : 0 ≤ rps)
    (capacity : 0 ≤ burst) (s : LimiterState) (event : LimiterEvent)
    (next : LimiterState) (tracks : s.Tracks rps burst)
    (stepped : limiterStep s event = some next) : next.Tracks rps burst := by
  cases event with
  | findBucket caller ip now =>
      simp only [limiterStep, Option.ite_none_right_eq_some,
        Option.some.injEq] at stepped
      obtain ⟨⟨later, -⟩, rfl⟩ := stepped
      exact tracks.findBucket capacity later
  | consume caller now =>
      cases holds : s.holding caller with
      | none => simp [limiterStep, holds] at stepped
      | some ip =>
          simp only [limiterStep, holds, Option.ite_none_right_eq_some,
            Option.some.injEq] at stepped
          obtain ⟨later, rfl⟩ := stepped
          exact tracks.consume rate capacity holds later
  | tryAddConnection ip now =>
      simp only [limiterStep, Option.ite_none_right_eq_some,
        Option.some.injEq] at stepped
      obtain ⟨later, rfl⟩ := stepped
      rcases s.limiter.tryAddConnection_cases ip now with ⟨result, -⟩ | ⟨result, -⟩ <;>
        rw [result] <;>
        exact tracks.of_same_buckets later rfl rfl rfl
  | removeConnection ip =>
      simp only [limiterStep, Option.some.injEq] at stepped
      subst stepped
      have frame := s.limiter.removeConnection_frame ip
      exact tracks.of_same_buckets le_rfl frame.1 frame.2.1 frame.2.2
  | touch ip now =>
      simp only [limiterStep, Option.ite_none_right_eq_some,
        Option.some.injEq] at stepped
      obtain ⟨later, rfl⟩ := stepped
      exact tracks.of_same_buckets later rfl rfl rfl

theorem initial_tracks (rps burst : ℚ) (maxPerIp maxTotal : ℤ)
    (idleTimeout start : ℚ) :
    (LimiterState.initial (RateLimiter.create rps burst maxPerIp maxTotal
      idleTimeout) start).Tracks rps burst where
  rate := rfl
  capacity := rfl
  held := by simp [LimiterState.initial]
  unused := by simp [LimiterState.initial, LimiterState.callsOf]
  tracked := by simp [LimiterState.initial, RateLimiter.create]

theorem run_tracks {rps burst : ℚ} (rate : 0 ≤ rps) (capacity : 0 ≤ burst)
    {maxPerIp maxTotal : ℤ} {idleTimeout start : ℚ}
    {events : List LimiterEvent} {s : LimiterState}
    (reached : run limiterStep (.initial (RateLimiter.create rps burst maxPerIp
      maxTotal idleTimeout) start) events = some s) : s.Tracks rps burst :=
  run_invariant (limiterStep_tracks rate capacity) reached
    (initial_tracks rps burst maxPerIp maxTotal idleTimeout start)

theorem LimiterState.Tracks.calls {rps burst : ℚ} {s : LimiterState}
    (tracks : s.Tracks rps burst) (ip : Ip) :
    FollowsPolicy rps burst (s.callsOf ip) ∧
      (s.callsOf ip).Pairwise fun earlier later => earlier.1 ≤ later.1 := by
  cases found : s.limiter.buckets.lookup ip with
  | none =>
      rw [tracks.unused ip found]
      exact ⟨.nil rps burst, .nil⟩
  | some bucket =>
      obtain ⟨-, start, bucketTracks⟩ := tracks.tracked ip bucket found
      exact ⟨bucketTracks.policy, bucketTracks.sorted⟩

/-- The rate limiter grants exactly what the policy allows, whatever the other
callers do: the answer law, the window bound, independence of everything but
the ip's own call times, and the bounds on the tokens. -/
theorem check_rate_grants_policy {rps burst : ℚ} (rate : 0 ≤ rps)
    (capacity : 0 ≤ burst) {maxPerIp maxTotal : ℤ} {idleTimeout start : ℚ}
    {events : List LimiterEvent} {s : LimiterState}
    (reached : run limiterStep (.initial (RateLimiter.create rps burst maxPerIp
      maxTotal idleTimeout) start) events = some s) (ip : Ip) :
    (∀ n (last : n < (s.callsOf ip).length),
      (s.callsOf ip)[n].2 = true ↔ ∀ k (first : k ≤ n),
        (granted (((s.callsOf ip).take n).drop k) : ℚ) + 1 ≤
          burst + rps * ((s.callsOf ip)[n].1 - (s.callsOf ip)[k].1)) ∧
    (∀ begin length, 0 ≤ length →
      (grantedWithin begin (begin + length) (s.callsOf ip) : ℚ) ≤
        burst + rps * length) ∧
    (∀ (maxPerIp' maxTotal' : ℤ) (idleTimeout' start' : ℚ)
      (events' : List LimiterEvent) (s' : LimiterState),
      run limiterStep (.initial (RateLimiter.create rps burst maxPerIp'
        maxTotal' idleTimeout') start') events' = some s' →
      (s'.callsOf ip).map Prod.fst = (s.callsOf ip).map Prod.fst →
      s'.callsOf ip = s.callsOf ip) ∧
    (∀ bucket, s.limiter.buckets.lookup ip = some bucket →
      0 ≤ bucket.tokens ∧ bucket.tokens ≤ burst) := by
  have tracks := run_tracks rate capacity reached
  obtain ⟨follows, sorted⟩ := tracks.calls ip
  refine ⟨follows, ?_, ?_, ?_⟩
  · intro begin length positive
    exact follows.grantedWithin_le sorted rate capacity positive
  · intro maxPerIp' maxTotal' idleTimeout' start' events' s' reached' times
    have tracks' := run_tracks rate capacity reached'
    exact (tracks'.calls ip).1.unique follows times
  · intro bucket found
    obtain ⟨-, _, bucketTracks⟩ := tracks.tracked ip bucket found
    exact ⟨bucketTracks.nonneg, bucketTracks.bounded⟩

theorem check_rate_grants_policy_two_calls :
    ∃ s, run limiterStep (.initial (RateLimiter.create 1 1 5 50 300) 0)
        [.findBucket 0 "10.0.0.1" 0, .consume 0 0,
          .findBucket 1 "10.0.0.1" 0, .consume 1 (1 / 2)] = some s ∧
      s.callsOf "10.0.0.1" = [(0, true), (1 / 2, false)] ∧
      (grantedWithin 0 (0 + 1) (s.callsOf "10.0.0.1") : ℚ) ≤ 1 + 1 * 1 := by
  have ran : (run limiterStep (.initial (RateLimiter.create 1 1 5 50 300) 0)
      [.findBucket 0 "10.0.0.1" 0, .consume 0 0,
        .findBucket 1 "10.0.0.1" 0, .consume 1 (1 / 2)]).map
        (fun s => s.callsOf "10.0.0.1") = some [(0, true), (1 / 2, false)] := by
    decide +kernel
  obtain ⟨s, reached, calls⟩ := Option.map_eq_some_iff.mp ran
  have law := check_rate_grants_policy zero_le_one zero_le_one reached "10.0.0.1"
  exact ⟨s, reached, calls, law.2.1 0 1 zero_le_one⟩

end VpnTunnel.Server
