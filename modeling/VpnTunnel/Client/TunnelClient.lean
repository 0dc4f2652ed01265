import Mathlib.Data.List.Basic
import VpnTunnel.Client.DoRequest

namespace VpnTunnel.Client

open VpnTunnel.Crypto

/-! `TunnelClient`, shared by any number of threads.  Sockets are numbers; the
connections they stand for belong to the network. -/

/-- Where a `send_request` call stands.  `n` counts `attempt`; the lock is held
at `sending` and `receiving`. -/
inductive CallPoint
  | attempt (n : ℕ)
  | sending (n : ℕ)
  | receiving (n : ℕ)
  /-- In the `except` clause, before its `_do_connect`. -/
  | failed (n : ℕ) (lastErr : PyError)
  | backoff (n : ℕ) (lastErr : PyError)
  | returned (response : Bytes)
  /-- The `ConnectionError` after the last attempt. -/
  | raised (lastErr : Option PyError)
  deriving DecidableEq, Repr

/-- Inside the `with self._lock` block of `_do_request`. -/
def CallPoint.locked : CallPoint → Bool
  | .sending _ | .receiving _ => true
  | _ => false

def CallPoint.finished : CallPoint → Bool
  | .returned _ | .raised _ => true
  | _ => false

structure Call (ρ : Type) where
  thread : ℕ
  request : ρ
  point : CallPoint
  deriving DecidableEq, Repr

structure TunnelClient (ρ : Type) where
  maxRetries : ℕ
  lock : Option ℕ
  sock : Option ℕ
  keys : Option SessionKeys
  connected : Bool
  calls : List (Call ρ)
  deriving DecidableEq, Repr

namespace TunnelClient

variable {ρ : Type} (c : TunnelClient ρ)

def create (maxRetries : ℕ) : TunnelClient ρ :=
  { maxRetries, lock := none, sock := none, keys := none, connected := false,
    calls := [] }

def closeSocket : TunnelClient ρ :=
  { c with sock := none, connected := false }

/-- `_do_connect`, with what TCP connect and `client_handshake` came to on the
new socket. -/
def doConnect (sock : ℕ) (handshake : Except PyError SessionKeys) :
    TunnelClient ρ :=
  let c := c.closeSocket
  match handshake with
  | .error _ => c
  | .ok keys => { c with sock := some sock, keys := some keys, connected := true }

def goto (call : ℕ) (point : CallPoint) : TunnelClient ρ :=
  { c with calls := c.calls.modify call fun call => { call with point } }

def pointOf (call : ℕ) : Option CallPoint := c.calls[call]?.map Call.point

/-- `_do_request` need not connect first. -/
def ready : Bool := c.connected && c.sock.isSome

/-- A new call of `send_request`; a thread makes one call at a time. -/
def sendRequest (thread : ℕ) (request : ρ) : Option (TunnelClient ρ) :=
  if ∀ call ∈ c.calls, call.thread = thread → call.point.finished = true then
    let point := if 1 ≤ c.maxRetries then .attempt 1 else .raised none
    some { c with calls := c.calls ++ [{ thread, request, point }] }
  else none

/-- `_do_request` takes the lock and connects where there is no connection. -/
def enter (call n sock : ℕ) (handshake : Except PyError SessionKeys) :
    TunnelClient ρ :=
  if c.ready then { c.goto call (.sending n) with lock := some call }
  else
    match handshake with
    | .ok _ =>
        { (c.doConnect sock handshake).goto call (.sending n) with
          lock := some call }
    | .error failure =>
        (c.doConnect sock handshake).goto call (.failed n failure)

/-- `send_frame` returned, or an exception left the `with` block. -/
def sent (call n : ℕ) (fault : Option PyError) : TunnelClient ρ :=
  match fault with
  | none => c.goto call (.receiving n)
  | some failure => { c.goto call (.failed n failure) with lock := none }

/-- `recv_frame` returned a frame or raised; `_do_request` is left either way. -/
def received (call n : ℕ) (frame : Except PyError (MessageType × Bytes)) :
    TunnelClient ρ :=
  let outcome := frame.bind fun (msgType, payload) => readReply msgType payload
  let point := match outcome with
    | .ok response => .returned response
    | .error failure => .failed n failure
  { c.goto call point with lock := none }

/-- The `_do_connect` of the `except` clause; its own exceptions are caught. -/
def reconnect (call n sock : ℕ) (lastErr : PyError)
    (handshake : Except PyError SessionKeys) : TunnelClient ρ :=
  (c.doConnect sock handshake).goto call (.backoff n lastErr)

def nextAttempt (call n : ℕ) (lastErr : PyError) : TunnelClient ρ :=
  c.goto call (if n < c.maxRetries then .attempt (n + 1) else .raised lastErr)

/-! Moving one call leaves everything else. -/

section

variable {c : TunnelClient ρ} {call other : ℕ} {point : CallPoint}

@[simp] theorem goto_lock : (c.goto call point).lock = c.lock := rfl
@[simp] theorem goto_sock : (c.goto call point).sock = c.sock := rfl
@[simp] theorem goto_maxRetries :
    (c.goto call point).maxRetries = c.maxRetries := rfl

theorem calls_goto (index : ℕ) :
    (c.goto call point).calls[index]? = c.calls[index]?.map fun x =>
      if call = index then { x with point } else x := by
  rw [goto, List.getElem?_modify]
  rfl

@[simp] theorem pointOf_goto_self :
    (c.goto call point).pointOf call = (c.pointOf call).map fun _ => point := by
  rw [pointOf, calls_goto, pointOf]
  cases c.calls[call]? <;> simp

@[simp] theorem pointOf_goto_ne (different : other ≠ call) :
    (c.goto call point).pointOf other = c.pointOf other := by
  rw [pointOf, calls_goto, pointOf]
  cases c.calls[other]? <;> simp [Ne.symm different]

theorem pointOf_goto_of {old : CallPoint} (here : c.pointOf call = some old) :
    (c.goto call point).pointOf call = some point := by
  rw [pointOf_goto_self, here]
  rfl

theorem pointOf_goto (index : ℕ) :
    (c.goto call point).pointOf index =
      if index = call then (c.pointOf call).map fun _ => point
      else c.pointOf index := by
  by_cases same : index = call
  · rw [if_pos same, same, pointOf_goto_self]
  · rw [if_neg same, pointOf_goto_ne same]

def Keeps (c next : TunnelClient ρ) : Prop :=
  ∀ (index : ℕ) (x : Call ρ), c.calls[index]? = some x →
    ∃ point, next.calls[index]? = some { x with point }

theorem keeps_of_eq {next : TunnelClient ρ} (same : next.calls = c.calls) :
    c.Keeps next := by
  intro index x found
  exact ⟨x.point, by rw [same]; exact found⟩

theorem keeps_goto : c.Keeps (c.goto call point) := by
  intro index x found
  rw [calls_goto, found]
  by_cases same : call = index
  · exact ⟨point, by simp [same]⟩
  · exact ⟨x.point, by simp [same]⟩

theorem Keeps.trans {next last : TunnelClient ρ} (first : c.Keeps next)
    (second : next.Keeps last) : c.Keeps last := by
  intro index x found
  obtain ⟨middle, kept⟩ := first index x found
  exact second index { x with point := middle } kept

theorem doConnect_cases (sock : ℕ) (handshake : Except PyError SessionKeys) :
    (∃ keys, handshake = .ok keys ∧ c.doConnect sock handshake =
      { c with sock := some sock, keys := some keys, connected := true }) ∨
    (∃ failure, handshake = .error failure ∧
      c.doConnect sock handshake = c.closeSocket) := by
  cases handshake with
  | ok keys => exact .inl ⟨keys, rfl, rfl⟩
  | error failure => exact .inr ⟨failure, rfl, rfl⟩

theorem doConnect_calls (sock : ℕ) (handshake : Except PyError SessionKeys) :
    (c.doConnect sock handshake).calls = c.calls := by
  cases handshake <;> rfl

theorem pointOf_of_calls {next : TunnelClient ρ} (same : next.calls = c.calls)
    (index : ℕ) : next.pointOf index = c.pointOf index := by
  rw [pointOf, same, pointOf]

theorem pointOf_append {x : Call ρ} {next : TunnelClient ρ}
    (added : next.calls = c.calls ++ [x]) {index : ℕ}
    {p : CallPoint} (here : next.pointOf index = some p) :
    c.pointOf index = some p ∨ p = x.point := by
  rw [pointOf, added] at here
  rcases Nat.lt_or_ge index c.calls.length with old | new
  · rw [List.getElem?_append_left old] at here
    exact .inl here
  · rw [List.getElem?_append_right new] at here
    obtain ⟨y, found, rfl⟩ := Option.map_eq_some_iff.mp here
    rw [List.mem_singleton.mp (List.mem_of_getElem? found)]
    exact .inr rfl

theorem pointOf_doConnect_goto (sock : ℕ)
    (handshake : Except PyError SessionKeys) (index : ℕ) :
    ((c.doConnect sock handshake).goto call point).pointOf index =
      (c.goto call point).pointOf index := by
  rw [pointOf_goto, pointOf_goto, pointOf_of_calls (doConnect_calls ..),
    pointOf_of_calls (doConnect_calls ..)]

theorem pointOf_goto_cases {old : CallPoint} (here : c.pointOf call = some old)
    {index : ℕ} {p : CallPoint}
    (there : (c.goto call point).pointOf index = some p) :
    index = call ∧ p = point ∨ index ≠ call ∧ c.pointOf index = some p := by
  by_cases same : index = call
  · rw [same, pointOf_goto_of here, Option.some.injEq] at there
    exact .inl ⟨same, there.symm⟩
  · rw [pointOf_goto_ne same] at there
    exact .inr ⟨same, there⟩

theorem enter_of_ready {n sock : ℕ} {handshake : Except PyError SessionKeys}
    (ready : c.ready = true) :
    c.enter call n sock handshake =
      { c.goto call (.sending n) with lock := some call } :=
  if_pos ready

theorem enter_of_error {n sock : ℕ} {failure : PyError}
    (unready : ¬ c.ready = true) :
    c.enter call n sock (.error failure) =
      c.closeSocket.goto call (.failed n failure) :=
  if_neg unready

theorem enter_of_ok {n sock : ℕ} {keys : SessionKeys}
    (unready : ¬ c.ready = true) :
    c.enter call n sock (.ok keys) =
      { (c.doConnect sock (.ok keys)).goto call (.sending n) with
        lock := some call } :=
  if_neg unready

theorem keeps_enter (n sock : ℕ) (handshake : Except PyError SessionKeys) :
    c.Keeps (c.enter call n sock handshake) := by
  have connected : c.Keeps (c.doConnect sock handshake) :=
    keeps_of_eq (doConnect_calls sock handshake)
  unfold enter
  split
  · exact keeps_goto
  · split <;> exact connected.trans keeps_goto

theorem keeps_reconnect (n sock : ℕ) (lastErr : PyError)
    (handshake : Except PyError SessionKeys) :
    c.Keeps (c.reconnect call n sock lastErr handshake) :=
  (keeps_of_eq (doConnect_calls sock handshake)).trans keeps_goto

end

/-- What its methods can do to the object, whoever calls them: a locked section is
entered while nobody holds the lock. -/
inductive Step (c : TunnelClient ρ) : TunnelClient ρ → Prop
  | sendRequest {thread : ℕ} {request : ρ} {next : TunnelClient ρ}
      (started : c.sendRequest thread request = some next) : Step c next
  | enter {call n : ℕ} (sock : ℕ) (handshake : Except PyError SessionKeys)
      (free : c.lock = none) (here : c.pointOf call = some (.attempt n)) :
      Step c (c.enter call n sock handshake)
  | sent {call n : ℕ} (fault : Option PyError)
      (here : c.pointOf call = some (.sending n)) : Step c (c.sent call n fault)
  | received {call n : ℕ} (frame : Except PyError (MessageType × Bytes))
      (here : c.pointOf call = some (.receiving n)) :
      Step c (c.received call n frame)
  | reconnect {call n : ℕ} {lastErr : PyError} (sock : ℕ)
      (handshake : Except PyError SessionKeys) (free : c.lock = none)
      (here : c.pointOf call = some (.failed n lastErr)) :
      Step c (c.reconnect call n sock lastErr handshake)
  | nextAttempt {call n : ℕ} {lastErr : PyError}
      (here : c.pointOf call = some (.backoff n lastErr)) :
      Step c (c.nextAttempt call n lastErr)
  | connect (sock : ℕ) (handshake : Except PyError SessionKeys)
      (free : c.lock = none) : Step c (c.doConnect sock handshake)
  | close (free : c.lock = none) : Step c c.closeSocket

end TunnelClient

end VpnTunnel.Client
