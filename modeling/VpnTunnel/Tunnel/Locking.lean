import VpnTunnel.Tunnel.Exchange

namespace VpnTunnel.Tunnel

open VpnTunnel.Crypto
open VpnTunnel.Client
open VpnTunnel.Server

/-! Where the calls of `send_request` stand, and which one holds the lock. -/

inductive PointMove (maxRetries : ℕ) : CallPoint → CallPoint → Prop
  | enter (n : ℕ) : PointMove maxRetries (.attempt n) (.sending n)
  | enterFault (n : ℕ) (failure : PyError) :
      PointMove maxRetries (.attempt n) (.failed n failure)
  | send (n : ℕ) : PointMove maxRetries (.sending n) (.receiving n)
  | sendFault (n : ℕ) (failure : PyError) :
      PointMove maxRetries (.sending n) (.failed n failure)
  | answer (n : ℕ) (response : Bytes) :
      PointMove maxRetries (.receiving n) (.returned response)
  | receiveFault (n : ℕ) (failure : PyError) :
      PointMove maxRetries (.receiving n) (.failed n failure)
  | reconnect (n : ℕ) (failure : PyError) :
      PointMove maxRetries (.failed n failure) (.backoff n failure)
  | again {n : ℕ} (failure : PyError) (more : n < maxRetries) :
      PointMove maxRetries (.backoff n failure) (.attempt (n + 1))
  | giveUp {n : ℕ} (failure : PyError) (last : ¬ n < maxRetries) :
      PointMove maxRetries (.backoff n failure) (.raised failure)

inductive PointStep (maxRetries : ℕ) :
    Option CallPoint → Option CallPoint → Prop
  | same (point : Option CallPoint) : PointStep maxRetries point point
  | start : PointStep maxRetries none
      (some (if 1 ≤ maxRetries then .attempt 1 else .raised none))
  | move {old point : CallPoint} (moved : PointMove maxRetries old point) :
      PointStep maxRetries (some old) (some point)

section

variable {ρ : Type} {c : TunnelClient ρ} {s next : Exchange ρ}

theorem pointStep_goto {call : ℕ} {old point : CallPoint}
    (here : c.pointOf call = some old)
    (moved : PointMove c.maxRetries old point) (index : ℕ) :
    PointStep c.maxRetries (c.pointOf index)
      ((c.goto call point).pointOf index) := by
  by_cases same : index = call
  · rw [same, TunnelClient.pointOf_goto_of here, here]
    exact .move moved
  · rw [TunnelClient.pointOf_goto_ne same]
    exact .same _

theorem pointOf_append_cases (c : TunnelClient ρ) (x : Call ρ) (index : ℕ) :
    ({ c with calls := c.calls ++ [x] } : TunnelClient ρ).pointOf index =
        c.pointOf index ∨
      c.pointOf index = none ∧
        ({ c with calls := c.calls ++ [x] } : TunnelClient ρ).pointOf index =
          some x.point := by
  rcases Nat.lt_trichotomy index c.calls.length with old | rfl | beyond
  · left
    rw [TunnelClient.pointOf, List.getElem?_append_left old]
    rfl
  · right
    rw [TunnelClient.pointOf, TunnelClient.pointOf,
      List.getElem?_eq_none (Nat.le_refl _), List.getElem?_concat_length]
    exact ⟨rfl, rfl⟩
  · left
    rw [TunnelClient.pointOf, TunnelClient.pointOf,
      List.getElem?_eq_none (Nat.le_of_lt beyond), List.getElem?_eq_none]
    rw [List.length_append]
    exact beyond

theorem pointStep_append (x : Call ρ)
    (first : x.point = if 1 ≤ c.maxRetries then .attempt 1 else .raised none)
    (index : ℕ) :
    PointStep c.maxRetries (c.pointOf index)
      (({ c with calls := c.calls ++ [x] } : TunnelClient ρ).pointOf index) := by
  rcases pointOf_append_cases c x index with same | ⟨new, added⟩
  · rw [same]
    exact .same _
  · rw [added, new, first]
    exact .start

theorem pointStep_doConnect_goto {call : ℕ} {old point : CallPoint}
    (here : c.pointOf call = some old)
    (moved : PointMove c.maxRetries old point) (sock : ℕ)
    (handshake : Except PyError SessionKeys) (index : ℕ) :
    PointStep c.maxRetries (c.pointOf index)
      (((c.doConnect sock handshake).goto call point).pointOf index) := by
  rw [TunnelClient.pointOf_doConnect_goto]
  exact pointStep_goto here moved index

theorem pointStep_enter {call n : ℕ} (here : c.pointOf call = some (.attempt n))
    (sock : ℕ) (handshake : Except PyError SessionKeys) (index : ℕ) :
    PointStep c.maxRetries (c.pointOf index)
      ((c.enter call n sock handshake).pointOf index) := by
  unfold TunnelClient.enter
  split
  · exact pointStep_goto here (.enter n) index
  · split
    · exact pointStep_doConnect_goto here (.enter n) sock _ index
    · exact pointStep_doConnect_goto here (.enterFault n _) sock _ index

theorem pointStep_received {call n : ℕ}
    (here : c.pointOf call = some (.receiving n))
    (frame : Except PyError (MessageType × Bytes)) (index : ℕ) :
    PointStep c.maxRetries (c.pointOf index)
      ((c.received call n frame).pointOf index) := by
  unfold TunnelClient.received
  dsimp only
  split
  · exact pointStep_goto here (.answer n _) index
  · exact pointStep_goto here (.receiveFault n _) index

theorem ExchangeMove.points {event : ExchangeEvent ρ}
    (move : ExchangeMove s event next) (index : ℕ) :
    PointStep s.client.maxRetries (s.client.pointOf index)
      (next.client.pointOf index) := by
  cases move with
  | sendRequest single first => exact pointStep_append _ first index
  | enter free here => exact pointStep_enter here _ _ index
  | @send call n thread sock request here open_ =>
      have at_ : s.client.pointOf call = some (.sending n) := by
        rw [TunnelClient.pointOf, here]
        rfl
      exact pointStep_goto at_ (.send n) index
  | sendFault here => exact pointStep_goto here (.sendFault _ _) index
  | receive here open_ found next => exact pointStep_received here _ index
  | receiveFault here open_ => exact pointStep_goto here (.receiveFault _ _) index
  | reconnect free here =>
      exact pointStep_doConnect_goto here (.reconnect _ _) _ _ index
  | @nextAttempt call n lastErr here =>
      refine pointStep_goto here ?_ index
      split
      · exact .again lastErr ‹_›
      · exact .giveUp lastErr ‹_›
  | connect free =>
      rw [TunnelClient.pointOf_of_calls (TunnelClient.doConnect_calls _ _)]
      exact .same _
  | close free => exact .same _
  | server here given answered found move => exact .same _

/-! The lock. -/

/-- A call that is inside the `with` block of `_do_request` holds the lock. -/
def Held (c : TunnelClient ρ) : Prop :=
  ∀ call point, c.pointOf call = some point → point.locked = true →
    c.lock = some call

theorem held_create (maxRetries : ℕ) :
    Held (TunnelClient.create maxRetries : TunnelClient ρ) := by
  intro call point here
  cases here

theorem Held.free (held : Held c) (free : c.lock = none) {call : ℕ}
    {point : CallPoint} (here : c.pointOf call = some point) :
    point.locked = false := by
  cases locked : point.locked with
  | false => rfl
  | true => cases free.symm.trans (held call point here locked)

theorem Held.of_lock {c' : TunnelClient ρ} (held : Held c)
    (lock : c'.lock = c.lock)
    (points : ∀ call point, c'.pointOf call = some point →
      c.pointOf call = some point ∨ point.locked = false) : Held c' := by
  intro call point here locked
  rw [lock]
  rcases points call point here with old | unlocked
  · exact held call point old locked
  · cases unlocked.symm.trans locked

theorem Held.move {c' : TunnelClient ρ} {call : ℕ} {old point : CallPoint}
    (held : Held c) (here : c.pointOf call = some old)
    (alone : c.lock = none ∨ old.locked = true)
    (points : ∀ index, c'.pointOf index = (c.goto call point).pointOf index)
    (own : point.locked = true → c'.lock = some call) : Held c' := by
  intro index reached there locked
  rw [points] at there
  rcases TunnelClient.pointOf_goto_cases here there with
    ⟨rfl, rfl⟩ | ⟨different, before⟩
  · exact own locked
  · have holder := held index reached before locked
    rcases alone with free | inside
    · cases free.symm.trans holder
    · have first := held call old here inside
      exact absurd (Option.some.inj (holder.symm.trans first)) different

theorem Held.enter {call n : ℕ} (held : Held c) (free : c.lock = none)
    (here : c.pointOf call = some (.attempt n)) (sock : ℕ)
    (handshake : Except PyError SessionKeys) :
    Held (c.enter call n sock handshake) := by
  unfold TunnelClient.enter
  split
  · exact held.move here (.inl free) (fun _ => rfl) fun _ => rfl
  · split
    · exact held.move here (.inl free)
        (TunnelClient.pointOf_doConnect_goto sock _) fun _ => rfl
    · exact held.move here (.inl free)
        (TunnelClient.pointOf_doConnect_goto sock _) nofun

theorem ExchangeMove.held {event : ExchangeEvent ρ}
    (move : ExchangeMove s event next) (held : Held s.client) :
    Held next.client := by
  cases move with
  | @sendRequest thread request point single first =>
      refine held.of_lock rfl ?_
      intro call reached here
      rcases TunnelClient.pointOf_append rfl here with old | same
      · exact .inl old
      · right
        rw [same]
        change point.locked = false
        rw [first]
        split <;> rfl
  | enter free here => exact held.enter free here _ _
  | @send call n thread sock request here open_ =>
      have at_ : s.client.pointOf call = some (.sending n) := by
        rw [TunnelClient.pointOf, here]
        rfl
      exact held.move at_ (.inr rfl) (fun _ => rfl)
        fun _ => held call _ at_ rfl
  | sendFault here =>
      exact held.move here (.inr rfl) (fun _ => rfl) (by intros; contradiction)
  | receive here open_ found next =>
      refine held.move here (.inr rfl) (fun _ => rfl) ?_
      intro locked
      split at locked <;> cases locked
  | receiveFault here open_ =>
      exact held.move here (.inr rfl) (fun _ => rfl) (by intros; contradiction)
  | reconnect free here =>
      exact held.move here (.inl free)
        (TunnelClient.pointOf_doConnect_goto _ _) (by intros; contradiction)
  | nextAttempt here =>
      refine held.of_lock rfl ?_
      intro index point there
      rcases TunnelClient.pointOf_goto_cases here there with
        ⟨-, rfl⟩ | ⟨-, before⟩
      · right
        split <;> rfl
      · exact .inl before
  | @connect handshake free =>
      have lock : (s.client.doConnect s.connections.length handshake).lock =
          s.client.lock := by
        cases handshake <;> rfl
      refine held.of_lock lock ?_
      intro call point here
      rw [TunnelClient.pointOf_of_calls (TunnelClient.doConnect_calls _ _)] at here
      exact .inl here
  | close free => exact held.of_lock rfl fun _ _ here => .inl here
  | server here given answered found move => exact held

end

end VpnTunnel.Tunnel
