import VpnTunnel.Client.SessionBinding
import VpnTunnel.Foundation.Progress

namespace VpnTunnel.Client

open VpnTunnel.Crypto
open VpnTunnel.Foundation

/-! Every call of `TunnelClient` comes to an end, given that each socket operation
returns or raises, as the time-outs of the sockets make it. -/

/-- A call is under way. -/
def MethodPoint.busy : MethodPoint → Bool
  | .done _ => false
  | _ => true

/-- The steps of `send_request` that may still come after the given attempt. -/
def attemptsLeft (maxRetries attempt : ℕ) : ℕ := 29 * (maxRetries - attempt)

/-- The steps that may still come once the method gives the lock back, or goes on
to `send_frame`. -/
def Method.stepsAfter (maxRetries : ℕ) : Method → ℕ
  | .connect | .close => 0
  | .doRequest _ attempt => 16 + attemptsLeft maxRetries attempt
  | .reconnect _ attempt _ => 1 + attemptsLeft maxRetries attempt

def MethodPoint.stepsLeft (maxRetries : ℕ) : MethodPoint → ℕ
  | .done _ => 0
  | .waiting method => 13 + method.stepsAfter maxRetries
  | .entered method => 12 + method.stepsAfter maxRetries
  | .closeSock method => 11 + method.stepsAfter maxRetries
  | .clearSock method => 10 + method.stepsAfter maxRetries
  | .clearConnected method => 9 + method.stepsAfter maxRetries
  | .openSock method => 8 + method.stepsAfter maxRetries
  | .tcpConnect method _ => 7 + method.stepsAfter maxRetries
  | .handshake method _ => 6 + method.stepsAfter maxRetries
  | .setSock method _ _ => 5 + method.stepsAfter maxRetries
  | .setSessionId method _ => 4 + method.stepsAfter maxRetries
  | .setEncKey method _ => 3 + method.stepsAfter maxRetries
  | .setMacKey method _ => 2 + method.stepsAfter maxRetries
  | .setConnected method => 1 + method.stepsAfter maxRetries
  | .sendFrame _ attempt => 16 + attemptsLeft maxRetries attempt
  | .recvFrame _ attempt => 15 + attemptsLeft maxRetries attempt
  | .backoff _ attempt _ => 1 + attemptsLeft maxRetries attempt

section

variable {P : Primitives} {maxRetries : ℕ} {t : Tunnel}

theorem stepsLeft_nextAttempt (request : Bytes) (attempt : ℕ)
    (lastErr : Option PyError) :
    (nextAttempt maxRetries request (attempt + 1) lastErr).stepsLeft maxRetries ≤
      attemptsLeft maxRetries attempt := by
  unfold nextAttempt
  split
  · simp only [MethodPoint.stepsLeft, Method.stepsAfter, attemptsLeft]
    omega
  · exact Nat.zero_le _

theorem stepsLeft_afterException (error : PyError) (method : Method) :
    (method.afterException error).stepsLeft maxRetries ≤
      method.stepsAfter maxRetries := by
  cases method with
  | connect | close => exact Nat.le_refl 0
  | doRequest request attempt =>
      simp only [Method.afterException, MethodPoint.stepsLeft, Method.stepsAfter]
      omega
  | reconnect request attempt lastErr => exact Nat.le_refl _

theorem stepsLeft_afterClose (method : Method) :
    (method.afterClose t).point.stepsLeft maxRetries ≤
      8 + method.stepsAfter maxRetries := by
  cases method with
  | close => exact Nat.zero_le _
  | _ => exact Nat.le_refl _

theorem stepsLeft_afterConnect (method : Method) :
    (method.afterConnect t).point.stepsLeft maxRetries ≤
      method.stepsAfter maxRetries := by
  cases method <;> exact Nat.le_refl _

theorem methodProgram_enabled (point : MethodPoint) (t : Tunnel)
    (busy : point.busy = true) :
    ∃ event deed, methodProgram P maxRetries point t event = some deed := by
  cases point with
  | done outcome => cases busy
  | entered method =>
      cases method with
      | doRequest request attempt =>
          refine ⟨.next, ?_⟩
          rw [methodProgram]
          split <;> exact ⟨_, rfl⟩
      | _ => exact ⟨.next, _, rfl⟩
  | handshake method sock => exact ⟨.failed .timeout, _, rfl⟩
  | sendFrame request attempt =>
      refine ⟨.sent zeroNonce none, ?_⟩
      rw [methodProgram]
      split <;> exact ⟨_, rfl⟩
  | recvFrame request attempt =>
      refine ⟨.received
        { incoming := [], cuts := [], ending := .timeout, outgoing := [] }, ?_⟩
      rw [methodProgram]
      split <;> exact ⟨_, rfl⟩
  | _ => exact ⟨.next, _, rfl⟩

/-- No statement but one that begins a call leaves more to do than before. -/
theorem methodProgram_falls (point : MethodPoint) (t : Tunnel)
    (event : MethodEvent) (deed : Deed MethodPoint Tunnel)
    (busy : point.busy = true)
    (does : methodProgram P maxRetries point t event = some deed) :
    deed.point.stepsLeft maxRetries < point.stepsLeft maxRetries := by
  unfold methodProgram at does
  split at does
  case h_1 | h_2 | h_3 => cases busy
  case h_5 request attempt =>
    split at does
    · cases does
      exact Nat.add_lt_add_right (by decide) _
    · cases does
      change 16 + attemptsLeft maxRetries attempt <
        12 + (16 + attemptsLeft maxRetries attempt)
      omega
  case h_9 method =>
    cases does
    refine Nat.lt_of_le_of_lt (stepsLeft_afterClose method) ?_
    exact Nat.add_lt_add_right (by decide) _
  case h_10 method error | h_12 method sock error | h_14 method sock error =>
    cases does
    refine Nat.lt_of_le_of_lt (stepsLeft_afterException error method) ?_
    exact Nat.lt_add_of_pos_left (by decide)
  case h_20 method =>
    cases does
    refine Nat.lt_of_le_of_lt (stepsLeft_afterConnect method) ?_
    exact Nat.lt_add_of_pos_left (by decide)
  case h_21 request attempt urandom fault =>
    split at does
    · cases does
      exact Nat.add_lt_add_right (by decide) _
    · cases does
      change 13 + (1 + attemptsLeft maxRetries attempt) <
        16 + attemptsLeft maxRetries attempt
      omega
  case h_22 request attempt stream =>
    split at does
    · cases does
      exact Nat.add_pos_left (by decide) _
    · cases does
      change 13 + (1 + attemptsLeft maxRetries attempt) <
        15 + attemptsLeft maxRetries attempt
      omega
  case h_23 request attempt lastErr =>
    cases does
    refine Nat.lt_of_le_of_lt (stepsLeft_nextAttempt request attempt lastErr) ?_
    exact Nat.lt_add_of_pos_left (by decide)
  case h_24 => cases does
  all_goals
    cases does
    exact Nat.add_lt_add_right (by decide) _

theorem methodProgram_progressive :
    Progressive (methodProgram P maxRetries) (fun point => point.busy = true)
      (MethodPoint.stepsLeft maxRetries) where
  enabled := methodProgram_enabled
  falls := methodProgram_falls

theorem busy_of_inside (point : MethodPoint) (inside : point.inside = true) :
    point.busy = true := by
  cases point with
  | done outcome => cases inside
  | _ => rfl

/-- `connect` and `close` take 13 steps, `send_request` 29 for each attempt. -/
theorem stepsLeft_begin {event : MethodEvent} {deed : Deed MethodPoint Tunnel}
    {outcome : MethodOutcome}
    (does : methodProgram P maxRetries (.done outcome) t event = some deed) :
    deed.point.stepsLeft maxRetries ≤ max 13 (29 * maxRetries) := by
  cases event with
  | connect | close =>
      cases does
      exact Nat.le_max_left _ _
  | sendRequest request =>
      cases does
      refine Nat.le_trans (stepsLeft_nextAttempt request 0 none) ?_
      exact Nat.le_max_right _ _
  | _ => cases does

end

/-- However the threads are interleaved, a call of `connect` or `close` ends within
13 of its thread's own steps and one of `send_request` within 29 for each of
`max_retries`; and in every state that the threads can reach, as long as some call is
under way, some call can go on. -/
theorem tunnel_calls_finish (P : Primitives) (maxRetries : ℕ)
    (events : List (ℕ × MethodEvent)) (s : TunnelThreads)
    (reached : run (threadsStep P maxRetries) .create events = some s) :
    (∀ thread first next later final, (s.points thread).busy = false →
      threadsStep P maxRetries s (thread, first) = some next →
      Along (threadsStep P maxRetries)
        (fun s event => event.1 = thread → (s.points thread).busy = true) next
        later →
      run (threadsStep P maxRetries) next later = some final →
      later.countP (fun event => event.1 = thread) ≤ max 13 (29 * maxRetries)) ∧
    ∀ thread, (s.points thread).busy = true →
      ∃ other event next, (s.points other).busy = true ∧
        threadsStep P maxRetries s (other, event) = some next := by
  constructor
  · intro thread first next later final idle begun along ran
    have steps := Monitor.own_steps_le (methodProgram_progressive (P := P)) along ran
    obtain ⟨deed, does, performed⟩ := Monitor.step_cases begun
    have begins : (next.points thread).stepsLeft maxRetries ≤
        max 13 (29 * maxRetries) := by
      rw [Monitor.points_perform performed, Function.update_self]
      cases here : s.points thread with
      | done outcome =>
          rw [here] at does
          exact stepsLeft_begin does
      | _ =>
          rw [here] at idle
          cases idle
    omega
  · intro thread busy
    exact Monitor.can_step methodProgram_lawful methodProgram_progressive
      busy_of_inside (sound_of_run reached).exclusive busy

/-- The 13 steps of a `connect` that succeeds. -/
def sampleSteps : List (ℕ × MethodEvent) :=
  List.replicate 7 (0, .next) ++ [(0, .handshaked sampleSession)] ++
    List.replicate 5 (0, .next)

theorem tunnel_calls_finish_sample :
    sampleSteps.countP (fun event => event.1 = 0) ≤ max 13 (29 * 3) ∧
      ∃ s other event next,
        run (threadsStep .transparent 3) .create sampleCalls = some s ∧
          (s.points 1).busy = true ∧ (s.points other).busy = true ∧
          threadsStep .transparent 3 s (other, event) = some next := by
  constructor
  · have ran : (run (threadsStep .transparent 3) .create
        ((0, .connect) :: sampleSteps)).isSome = true := by decide +kernel
    obtain ⟨final, reached⟩ := Option.isSome_iff_exists.mp ran
    obtain ⟨next, begun, later⟩ := run_cons_eq_some.mp reached
    have along : ∀ next ∈ threadsStep .transparent 3 .create (0, .connect),
        Along (threadsStep .transparent 3)
          (fun s event => event.1 = 0 → (s.points 0).busy = true) next
          sampleSteps := by decide +kernel
    exact (tunnel_calls_finish .transparent 3 [] .create rfl).1 0 .connect next
      sampleSteps final rfl begun (along next begun) later
  · have ran : (run (threadsStep .transparent 3) .create sampleCalls).map
        (fun s => (s.points 1).busy) = some true := by decide +kernel
    obtain ⟨s, reached, busy⟩ := Option.map_eq_some_iff.mp ran
    obtain ⟨other, event, next, able, stepped⟩ :=
      (tunnel_calls_finish .transparent 3 sampleCalls s reached).2 1 busy
    exact ⟨s, other, event, next, reached, busy, able, stepped⟩

end VpnTunnel.Client
