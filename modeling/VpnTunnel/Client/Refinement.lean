import Mathlib.Logic.Relation
import VpnTunnel.Client.AtomicMethods
import VpnTunnel.Client.TunnelClient

namespace VpnTunnel.Client

open VpnTunnel.Crypto
open VpnTunnel.Foundation

/-! The methods, one statement at a time or at once, do to the attributes and to
each `send_request` call what the steps of `TunnelClient` do. -/

def TunnelClient.attributes {ρ : Type} (c : TunnelClient ρ) : Attributes where
  sock := c.sock
  sessionId := c.keys.map SessionKeys.sessionId
  encKey := c.keys.map SessionKeys.encKey
  macKey := c.keys.map SessionKeys.macKey
  connected := c.connected

/-- Where the call of a thread stands that is at this point; `connect` and
`disconnect` are not calls of `send_request`. -/
def MethodPoint.callPoint : MethodPoint → Option CallPoint
  | .waiting (.doRequest _ attempt) => some (.attempt attempt)
  | .waiting (.reconnect _ attempt lastErr) => some (.failed attempt lastErr)
  | .backoff _ attempt lastErr => some (.backoff attempt lastErr)
  | .done (.returned (some response)) => some (.returned response)
  | .done (.exhausted lastErr) => some (.raised lastErr)
  | _ => none

def MethodPoint.request : MethodPoint → Option Bytes
  | .waiting (.doRequest request _) => some request
  | .waiting (.reconnect request _ _) => some request
  | .backoff request _ _ => some request
  | _ => none

/-- The call at the index stands where its thread does, and no other call of the
thread is unfinished. -/
structure StandsAt (calls : List (Call Bytes)) (thread : ℕ) (point : MethodPoint)
    (index : ℕ) : Prop where
  shown : ∀ p, point.callPoint = some p → ∃ call, calls[index]? = some call ∧
    call.thread = thread ∧ call.point = p ∧
      ∀ request, point.request = some request → call.request = request
  single : ∀ other call, calls[other]? = some call → call.thread = thread →
    call.point.finished = false → other = index ∧ point.callPoint = some call.point

def Stands (calls : List (Call Bytes)) (thread : ℕ) (point : MethodPoint) : Prop :=
  ∃ index, StandsAt calls thread point index

/-- The object seen as attributes and threads, and as attributes and calls. -/
structure Matches (s : Callers) (c : TunnelClient Bytes) : Prop where
  free : c.lock = none
  attributes : s.shared.attributes = c.attributes
  stands : ∀ thread, Stands c.calls thread (s.points thread)

section

variable {calls : List (Call Bytes)} {thread other : ℕ} {point after : MethodPoint}

theorem Stands.finished (stands : Stands calls thread point)
    (idle : ∀ p, point.callPoint = some p → p.finished = true) :
    ∀ call ∈ calls, call.thread = thread → call.point.finished = true := by
  intro call member own
  obtain ⟨index, standsAt⟩ := stands
  obtain ⟨position, found⟩ := List.getElem?_of_mem member
  cases ended : call.point.finished with
  | true => rfl
  | false =>
      have shown := (standsAt.single position call found own ended).2
      exact absurd (idle call.point shown) (by rw [ended]; exact Bool.false_ne_true)

theorem stands_of_finished (noCall : after.callPoint = none)
    (finished : ∀ call ∈ calls, call.thread = thread →
      call.point.finished = true) : Stands calls thread after := by
  refine ⟨0, ?_, ?_⟩
  · intro p shown
    rw [noCall] at shown
    cases shown
  · intro other call found own unfinished
    rw [finished call (List.mem_of_getElem? found) own] at unfinished
    cases unfinished

theorem StandsAt.call {index : ℕ} {p : CallPoint} {request : Bytes}
    (stands : StandsAt calls thread point index)
    (shown : point.callPoint = some p) (asks : point.request = some request) :
    calls[index]? = some { thread, request, point := p } := by
  obtain ⟨call, found, rfl, rfl, same⟩ := stands.shown p shown
  rw [found, ← same request asks]

/-- Its own call moves with the thread. -/
theorem StandsAt.moved {index : ℕ} {p q : CallPoint} {request : Bytes}
    (stands : StandsAt calls thread point index)
    (shown : point.callPoint = some p) (asks : point.request = some request)
    (shows : after.callPoint = some q)
    (keeps : ∀ also, after.request = some also → also = request) :
    StandsAt (calls.modify index fun call => { call with point := q }) thread after
      index := by
  have here : (calls.modify index fun call => { call with point := q })[index]? =
      some { thread, request, point := q } := by
    rw [List.getElem?_modify_eq, stands.call shown asks]
    rfl
  constructor
  · intro p' shown'
    rw [shows] at shown'
    cases shown'
    exact ⟨_, here, rfl, rfl, fun also asked => (keeps also asked).symm⟩
  · intro other call found own unfinished
    by_cases same : other = index
    · rw [same, here] at found
      cases found
      exact ⟨same, shows⟩
    · rw [List.getElem?_modify_ne _ _ (Ne.symm same)] at found
      exact absurd (stands.single other call found own unfinished).1 same

/-- A call moves; the other threads stand where they did. -/
theorem Stands.frame {index : ℕ} {p q : CallPoint} {request : Bytes}
    (stands : Stands calls other point)
    (found : calls[index]? = some { thread, request, point := p })
    (different : other ≠ thread) :
    Stands (calls.modify index fun call => { call with point := q }) other point := by
  obtain ⟨position, standsAt⟩ := stands
  have here : (calls.modify index fun call => { call with point := q })[index]? =
      some { thread, request, point := q } := by
    rw [List.getElem?_modify_eq, found]
    rfl
  have apart (place : ℕ) :
      (∃ call, calls[place]? = some call ∧ call.thread = other) → index ≠ place := by
    rintro ⟨call, there, own⟩ rfl
    rw [found, Option.some.injEq] at there
    rw [← there] at own
    exact different own.symm
  refine ⟨position, ?_, ?_⟩
  · intro p' shown
    obtain ⟨call, there, own, rest⟩ := standsAt.shown p' shown
    refine ⟨call, ?_, own, rest⟩
    rw [List.getElem?_modify_ne _ _ (apart position ⟨call, there, own⟩), there]
  · intro place call there own unfinished
    by_cases same : index = place
    · rw [← same, here] at there
      cases there
      exact absurd own.symm different
    · rw [List.getElem?_modify_ne _ _ same] at there
      exact standsAt.single place call there own unfinished

theorem standsAt_append {p : CallPoint} {request : Bytes}
    (finished : ∀ call ∈ calls, call.thread = thread → call.point.finished = true)
    (shows : after.callPoint = some p)
    (keeps : ∀ also, after.request = some also → also = request) :
    StandsAt (calls ++ [{ thread, request, point := p }]) thread after
      calls.length := by
  constructor
  · intro p' shown
    rw [shows] at shown
    cases shown
    refine ⟨{ thread, request, point := p }, ?_, rfl, rfl, ?_⟩
    · rw [List.getElem?_append_right (Nat.le_refl _), Nat.sub_self]
      rfl
    · intro also asked
      exact (keeps also asked).symm
  · intro other call found own unfinished
    rcases Nat.lt_or_ge other calls.length with old | new
    · rw [List.getElem?_append_left old] at found
      rw [finished call (List.mem_of_getElem? found) own] at unfinished
      cases unfinished
    · rw [List.getElem?_append_right new] at found
      have first : other - calls.length = 0 := by
        have within := (List.getElem?_eq_some_iff.mp found).1
        simp only [List.length_singleton] at within
        omega
      rw [first] at found
      cases found
      exact ⟨by omega, shows⟩

theorem Stands.append {p : CallPoint} {request : Bytes}
    (stands : Stands calls other point) (different : other ≠ thread) :
    Stands (calls ++ [{ thread, request, point := p }]) other point := by
  obtain ⟨position, standsAt⟩ := stands
  refine ⟨position, ?_, ?_⟩
  · intro p' shown
    obtain ⟨call, here, rest⟩ := standsAt.shown p' shown
    have within := (List.getElem?_eq_some_iff.mp here).1
    exact ⟨call, by rw [List.getElem?_append_left within, here], rest⟩
  · intro at_ call found own unfinished
    rcases Nat.lt_or_ge at_ calls.length with old | new
    · rw [List.getElem?_append_left old] at found
      exact standsAt.single at_ call found own unfinished
    · rw [List.getElem?_append_right new] at found
      have last := List.mem_of_getElem? found
      rw [List.mem_singleton.mp last] at own
      exact absurd own.symm different

end

/-! What the methods do to the attributes. -/

/-- What a `_do_connect` met, for the record. -/
def ConnectTrial.handshake : ConnectTrial → Except PyError SessionKeys
  | .noSocket error | .failed error => .error error
  | .handshaked keys => .ok keys

section

variable {P : Primitives} {t : Tunnel} {c : TunnelClient Bytes}

theorem attributes_closeSocket (same : t.attributes = c.attributes) :
    t.closeSocket.attributes = c.closeSocket.attributes := by
  have closed : t.closeSock.attributes = t.attributes := by
    unfold Tunnel.closeSock
    split <;> rfl
  rw [Tunnel.closeSocket, Tunnel.assign, closed, same]
  rfl

/-- `_do_connect` raises what TCP or the handshake did. -/
theorem doConnect_raises (trial : ConnectTrial) :
    (t.doConnect trial).2 = match trial.handshake with
      | .error error => some error
      | .ok _ => none := by
  cases trial <;> rfl

theorem attributes_doConnect (same : t.attributes = c.attributes)
    (trial : ConnectTrial) :
    (t.doConnect trial).1.attributes =
      (c.doConnect t.sockets.length trial.handshake).attributes := by
  cases trial with
  | noSocket error => exact attributes_closeSocket same
  | failed error => exact attributes_closeSocket same
  | handshaked keys =>
      have sockets : t.closeSocket.sockets.length = t.sockets.length := by
        rw [Tunnel.closeSocket, Tunnel.assign, Tunnel.closeSock]
        split
        · rfl
        · exact List.length_modify ..
      change ({ sock := some t.closeSocket.sockets.length, .. } : Attributes) = _
      rw [sockets]
      rfl

theorem attributes_sendRequest (request : Bytes) (urandom : GcmNonce)
    (fault : Option PyError) :
    (t.sendRequest P request urandom fault).1.attributes = t.attributes := by
  unfold Tunnel.sendRequest
  repeat' split
  all_goals rfl

theorem ready_iff (same : t.attributes = c.attributes) :
    c.ready = true ↔
      ¬ (t.attributes.connected = false ∨ t.attributes.sock = none) := by
  rw [same, TunnelClient.ready, not_or, Bool.and_eq_true, Bool.not_eq_false]
  exact and_congr Iff.rfl Option.isSome_iff_ne_none

def outcomePoint (attempt : ℕ) : Except PyError Bytes → CallPoint
  | .ok response => .returned response
  | .error error => .failed attempt error

/-- The state of the record once the lock is free again. -/
structure Left (c next : TunnelClient Bytes) (call : ℕ) (point : CallPoint) :
    Prop where
  steps : Relation.ReflTransGen TunnelClient.Step c next
  free : next.lock = none
  calls : next.calls = c.calls.modify call fun call => { call with point }
  maxRetries : next.maxRetries = c.maxRetries

theorem receiveReply_eq_bind (t : Tunnel) (stream : Sock) :
    ∃ frame : Except PyError (MessageType × Bytes),
      t.receiveReply P stream =
        frame.bind fun (msgType, payload) => readReply msgType payload := by
  unfold Tunnel.receiveReply
  split
  case h_1 => exact ⟨.error .typeError, rfl⟩
  case h_2 =>
    split
    case h_1 error after received => exact ⟨.error error, rfl⟩
    case h_2 msgType sessionId response after received =>
      exact ⟨.ok (msgType, response), rfl⟩

theorem attributes_exchange (request : Bytes) (answers : Answers) :
    (t.exchange P request answers).1.attributes = t.attributes := by
  have kept := attributes_sendRequest (P := P) (t := t) request answers.urandom
    answers.fault
  unfold Tunnel.exchange
  split
  case h_1 after error sent =>
    rw [sent] at kept
    exact kept
  case h_2 after sent =>
    rw [sent] at kept
    exact kept

/-- `send_frame` and `recv_frame` are the steps `sent` and `received`. -/
theorem exchange_left {call attempt : ℕ} (request : Bytes) (answers : Answers)
    (here : c.pointOf call = some (.sending attempt)) :
    ∃ next, Left c next call
        (outcomePoint attempt (t.exchange P request answers).2) ∧
      next.attributes = c.attributes := by
  unfold Tunnel.exchange
  split
  case h_1 after error failed =>
    refine ⟨c.sent call attempt (some error), ⟨?_, rfl, rfl, rfl⟩, rfl⟩
    exact .single (.sent (some error) here)
  case h_2 after sent =>
    obtain ⟨frame, read⟩ := receiveReply_eq_bind (P := P) after answers.stream
    have waits : (c.sent call attempt none).pointOf call =
        some (.receiving attempt) := TunnelClient.pointOf_goto_of here
    refine ⟨(c.sent call attempt none).received call attempt frame,
      ⟨?_, rfl, ?_, rfl⟩, rfl⟩
    · exact .tail (.single (.sent none here)) (.received frame waits)
    · simp only [read]
      exact List.modify_modify_eq ..

theorem entered_left {entered : TunnelClient Bytes} {call attempt : ℕ}
    {before : CallPoint} (request : Bytes) (answers : Answers)
    (here : c.pointOf call = some before)
    (step : TunnelClient.Step c entered)
    (calls : entered.calls = (c.goto call (.sending attempt)).calls)
    (maxRetries : entered.maxRetries = c.maxRetries)
    (same : t.attributes = entered.attributes) :
    ∃ next, Left c next call
        (outcomePoint attempt (t.exchange P request answers).2) ∧
      (t.exchange P request answers).1.attributes = next.attributes := by
  have sending : entered.pointOf call = some (.sending attempt) := by
    rw [TunnelClient.pointOf, calls]
    exact TunnelClient.pointOf_goto_of here
  obtain ⟨next, left, kept⟩ :=
    exchange_left (P := P) (t := t) request answers sending
  refine ⟨next, ⟨.head step left.steps, left.free, ?_, ?_⟩, ?_⟩
  · rw [left.calls, calls]
    exact List.modify_modify_eq ..
  · rw [left.maxRetries, maxRetries]
  · rw [attributes_exchange, kept, same]

/-- `_do_request` is `enter` and, once there is a connection, the exchange. -/
theorem doRequest_left {call attempt : ℕ} (same : t.attributes = c.attributes)
    (request : Bytes) (answers : Answers) (free : c.lock = none)
    (here : c.pointOf call = some (.attempt attempt)) :
    ∃ next, Left c next call
        (outcomePoint attempt (t.doRequest P request answers).2) ∧
      (t.doRequest P request answers).1.attributes = next.attributes := by
  have entered : TunnelClient.Step c
      (c.enter call attempt t.sockets.length answers.trial.handshake) :=
    .enter _ _ free here
  by_cases ready : c.ready = true
  · have went : t.doRequest P request answers = t.exchange P request answers :=
      if_neg ((ready_iff same).mp ready)
    rw [TunnelClient.enter_of_ready ready] at entered
    rw [went]
    exact entered_left request answers here entered rfl rfl same
  · have raises := doConnect_raises (t := t) answers.trial
    have attributes := attributes_doConnect same answers.trial
    have unready := not_not.mp (mt (ready_iff same).mpr ready)
    cases connected : t.doConnect answers.trial with
    | mk after raised =>
        rw [connected] at raises attributes
        cases met : answers.trial.handshake with
        | error error =>
            rw [met] at raises attributes entered
            rw [TunnelClient.enter_of_error ready] at entered
            cases raises
            have went : t.doRequest P request answers = (after, .error error) := by
              rw [Tunnel.doRequest, if_pos unready]
              simp only [connected]
            rw [went]
            exact ⟨_, ⟨.single entered, free, rfl, rfl⟩, attributes⟩
        | ok keys =>
            rw [met] at raises attributes entered
            rw [TunnelClient.enter_of_ok ready] at entered
            cases raises
            have went : t.doRequest P request answers =
                after.exchange P request answers := by
              rw [Tunnel.doRequest, if_pos unready]
              simp only [connected]
            rw [went]
            exact entered_left request answers here entered rfl rfl attributes

theorem reconnect_left {call attempt : ℕ} {lastErr : PyError}
    (same : t.attributes = c.attributes) (trial : ConnectTrial)
    (free : c.lock = none)
    (here : c.pointOf call = some (.failed attempt lastErr)) :
    ∃ next, Left c next call (.backoff attempt lastErr) ∧
      (t.doConnect trial).1.attributes = next.attributes := by
  have calls := TunnelClient.doConnect_calls (c := c) t.sockets.length
    trial.handshake
  have rest : (c.doConnect t.sockets.length trial.handshake).lock = none ∧
      (c.doConnect t.sockets.length trial.handshake).maxRetries =
        c.maxRetries := by
    cases trial <;> exact ⟨free, rfl⟩
  refine ⟨c.reconnect call attempt t.sockets.length lastErr trial.handshake,
    ⟨.single (.reconnect _ _ free here), rest.1, ?_, rest.2⟩, ?_⟩
  · exact congrArg (List.modify · call _) calls
  · exact attributes_doConnect same trial

end

/-! A step of a thread is the steps of its call. -/

section

variable {P : Primitives} {maxRetries : ℕ} {s : Callers} {c : TunnelClient Bytes}

theorem matches_create : Matches .create (.create maxRetries) where
  free := rfl
  attributes := rfl
  stands thread := stands_of_finished rfl (by
    intro call member
    cases member)

theorem Matches.goto {next : TunnelClient Bytes} {shared : Tunnel} {thread : ℕ}
    {after : MethodPoint} (agree : Matches s c) (free : next.lock = none)
    (attributes : shared.attributes = next.attributes)
    (own : Stands next.calls thread after)
    (others : ∀ other, other ≠ thread → Stands c.calls other (s.points other) →
      Stands next.calls other (s.points other)) :
    Matches { s.goto thread after with shared } next where
  free := free
  attributes := attributes
  stands other := by
    change Stands next.calls other (Function.update s.points thread after other)
    by_cases same : other = thread
    · rw [same, Function.update_self]
      exact own
    · rw [Function.update_of_ne same]
      exact others other same (agree.stands other)

theorem Matches.idle {next : TunnelClient Bytes} {shared : Tunnel} {thread : ℕ}
    {after : MethodPoint} (agree : Matches s c)
    (idle : ∀ p, (s.points thread).callPoint = some p → p.finished = true)
    (noCall : after.callPoint = none) (free : next.lock = none)
    (attributes : shared.attributes = next.attributes)
    (calls : next.calls = c.calls) :
    Matches { s.goto thread after with shared } next := by
  apply agree.goto free attributes
  · rw [calls]
    exact stands_of_finished noCall ((agree.stands thread).finished idle)
  · intro other _ stands
    rw [calls]
    exact stands

theorem Matches.call {thread : ℕ} {point : MethodPoint} {p : CallPoint}
    {request : Bytes} (agree : Matches s c) (here : s.points thread = point)
    (shown : point.callPoint = some p) (asks : point.request = some request) :
    ∃ index, StandsAt c.calls thread point index ∧ c.pointOf index = some p := by
  obtain ⟨index, standsAt⟩ := agree.stands thread
  rw [here] at standsAt
  refine ⟨index, standsAt, ?_⟩
  rw [TunnelClient.pointOf, standsAt.call shown asks]
  rfl

theorem Matches.moved {next : TunnelClient Bytes} {shared : Tunnel}
    {thread index : ℕ} {point after : MethodPoint} {p q : CallPoint}
    {request : Bytes} (agree : Matches s c)
    (standsAt : StandsAt c.calls thread point index)
    (shown : point.callPoint = some p) (asks : point.request = some request)
    (shows : after.callPoint = some q)
    (keeps : ∀ also, after.request = some also → also = request)
    (free : next.lock = none) (attributes : shared.attributes = next.attributes)
    (calls : next.calls = c.calls.modify index fun call => { call with point := q }) :
    Matches { s.goto thread after with shared } next := by
  apply agree.goto free attributes
  · rw [calls]
    exact ⟨index, standsAt.moved shown asks shows keeps⟩
  · intro other different stands
    rw [calls]
    exact stands.frame (standsAt.call shown asks) different

/-- Steps of the record lead to a record that agrees. -/
def Followed (next : Callers) (c : TunnelClient Bytes) : Prop :=
  ∃ c', Relation.ReflTransGen TunnelClient.Step c c' ∧
    c'.maxRetries = c.maxRetries ∧ Matches next c'

theorem callPoint_nextAttempt (request : Bytes) (attempt : ℕ)
    (lastErr : Option PyError) :
    (nextAttempt maxRetries request attempt lastErr).callPoint =
      some (if attempt ≤ maxRetries then .attempt attempt else .raised lastErr) := by
  rw [nextAttempt]
  split <;> rfl

theorem request_nextAttempt {request also : Bytes} {attempt : ℕ}
    {lastErr : Option PyError}
    (asks : (nextAttempt maxRetries request attempt lastErr).request = some also) :
    also = request := by
  rw [nextAttempt] at asks
  split at asks <;> cases asks
  rfl

theorem idle_done {outcome : MethodOutcome} {p : CallPoint}
    (shown : (MethodPoint.done outcome).callPoint = some p) : p.finished = true := by
  cases outcome with
  | returned response =>
      cases response with
      | none => cases shown
      | some response =>
          cases shown
          rfl
  | raised error => cases shown
  | exhausted lastErr =>
      cases shown
      rfl

section

variable {thread : ℕ} (agree : Matches s c)

include agree

theorem followed_sendRequest {outcome : MethodOutcome} (request : Bytes)
    (here : s.points thread = .done outcome) (same : c.maxRetries = maxRetries) :
    Followed (s.goto thread (nextAttempt maxRetries request 1 none)) c := by
  have finished := (agree.stands thread).finished (by
    rw [here]
    exact fun _ => idle_done)
  have started : c.sendRequest thread request = some _ := if_pos finished
  refine ⟨_, .single (.sendRequest started), rfl, ?_⟩
  apply agree.goto
  · exact agree.free
  · exact agree.attributes
  · refine ⟨_, standsAt_append finished ?_ fun _ => request_nextAttempt⟩
    rw [callPoint_nextAttempt, same]
  · exact fun _ different stands => stands.append different

theorem followed_retry {request : Bytes} {attempt : ℕ} {lastErr : PyError}
    (here : s.points thread = .backoff request attempt lastErr)
    (same : c.maxRetries = maxRetries) :
    Followed (s.goto thread (nextAttempt maxRetries request (attempt + 1) lastErr))
      c := by
  obtain ⟨index, standsAt, waits⟩ := agree.call here rfl rfl
  refine ⟨c.nextAttempt index attempt lastErr, .single (.nextAttempt waits), rfl, ?_⟩
  refine agree.moved standsAt rfl rfl ?_ (fun _ => request_nextAttempt)
    agree.free agree.attributes rfl
  rw [callPoint_nextAttempt, same]
  rfl

theorem followed_doRequest {request : Bytes} {attempt : ℕ} (answers : Answers)
    (here : s.points thread = .waiting (.doRequest request attempt)) :
    Followed { s.goto thread ((Method.doRequest request attempt).atomically P
      s.shared answers).1 with
        shared := ((Method.doRequest request attempt).atomically P s.shared
          answers).2 } c := by
  obtain ⟨index, standsAt, waits⟩ := agree.call here rfl rfl
  obtain ⟨next, left, attributes⟩ :=
    doRequest_left (P := P) agree.attributes request answers agree.free waits
  refine ⟨next, left.steps, left.maxRetries, ?_⟩
  rw [Method.atomically]
  cases went : s.shared.doRequest P request answers with
  | mk after outcome =>
      rw [went] at left attributes
      cases outcome with
      | ok response =>
          exact agree.moved standsAt rfl rfl rfl (fun _ asked => by cases asked)
            left.free attributes left.calls
      | error error =>
          exact agree.moved standsAt rfl rfl rfl
            (fun _ asked => (Option.some.inj asked).symm) left.free attributes
            left.calls

theorem followed_reconnect {request : Bytes} {attempt : ℕ} {lastErr : PyError}
    (trial : ConnectTrial)
    (here : s.points thread = .waiting (.reconnect request attempt lastErr)) :
    Followed { s.goto thread (.backoff request attempt lastErr) with
      shared := (s.shared.doConnect trial).1 } c := by
  obtain ⟨index, standsAt, waits⟩ := agree.call here rfl rfl
  obtain ⟨next, left, attributes⟩ :=
    reconnect_left agree.attributes trial agree.free waits
  refine ⟨next, left.steps, left.maxRetries, ?_⟩
  exact agree.moved standsAt rfl rfl rfl
    (fun _ asked => (Option.some.inj asked).symm) left.free attributes left.calls

theorem followed_connect {after : MethodPoint} (trial : ConnectTrial)
    (here : s.points thread = .waiting .connect) (noCall : after.callPoint = none) :
    Followed { s.goto thread after with shared := (s.shared.doConnect trial).1 }
      c := by
  have calls := TunnelClient.doConnect_calls (c := c) s.shared.sockets.length
    trial.handshake
  have rest : (c.doConnect s.shared.sockets.length trial.handshake).lock = none ∧
      (c.doConnect s.shared.sockets.length trial.handshake).maxRetries =
        c.maxRetries := by
    cases trial <;> exact ⟨agree.free, rfl⟩
  refine ⟨_, .single (.connect _ _ agree.free), rest.2, ?_⟩
  refine agree.idle ?_ noCall rest.1 (attributes_doConnect agree.attributes trial)
    calls
  intro p shown
  rw [here] at shown
  cases shown

theorem followed_close {after : MethodPoint}
    (here : s.points thread = .waiting .close) (noCall : after.callPoint = none) :
    Followed { s.goto thread after with shared := s.shared.closeSocket } c := by
  refine ⟨_, .single (.close agree.free), rfl, ?_⟩
  refine agree.idle ?_ noCall agree.free (attributes_closeSocket agree.attributes) rfl
  intro p shown
  rw [here] at shown
  cases shown

end

/-- Every step of the callers is followed by steps of the record. -/
theorem callersStep_followed {next : Callers} {thread : ℕ} {event : CallersEvent}
    (agree : Matches s c) (same : c.maxRetries = maxRetries)
    (stepped : callersStep P maxRetries s (thread, event) = some next) :
    Followed next c := by
  have waits (method : Method) (done : (MethodPoint.waiting method).callPoint = none)
      {outcome : MethodOutcome} (here : s.points thread = .done outcome) :
      Followed (s.goto thread (.waiting method)) c := by
    refine ⟨c, .refl, rfl, ?_⟩
    refine agree.idle ?_ done agree.free agree.attributes rfl
    rw [here]
    exact fun _ => idle_done
  dsimp only [callersStep] at stepped
  split at stepped
  case h_1 outcome here =>
    cases stepped
    exact waits .connect rfl here
  case h_2 outcome here =>
    cases stepped
    exact waits .close rfl here
  case h_3 outcome request here =>
    cases stepped
    exact followed_sendRequest agree request here same
  case h_4 request attempt lastErr here =>
    cases stepped
    exact followed_retry agree here same
  case h_5 method answers here =>
    cases stepped
    cases method with
    | connect =>
        rw [Method.atomically]
        cases met : s.shared.doConnect answers.trial with
        | mk after raised =>
            have followed (point : MethodPoint) (noCall : point.callPoint = none) :=
              followed_connect agree answers.trial here noCall
            rw [met] at followed
            cases raised <;> exact followed _ rfl
    | close => exact followed_close agree here rfl
    | doRequest request attempt => exact followed_doRequest agree answers here
    | reconnect request attempt lastErr =>
        exact followed_reconnect agree answers.trial here
  case h_6 => cases stepped

theorem callers_followed {calls : List (ℕ × CallersEvent)}
    (reached : run (callersStep P maxRetries) .create calls = some s) :
    Followed s (.create maxRetries) := by
  have followed : ∀ before event after, Followed before (.create maxRetries) →
      callersStep P maxRetries before event = some after →
        Followed after (.create maxRetries) := by
    rintro before ⟨thread, event⟩ after ⟨c, steps, same, agree⟩ stepped
    obtain ⟨c', more, kept, agrees⟩ := callersStep_followed agree same stepped
    exact ⟨c', steps.trans more, kept.trans same, agrees⟩
  exact run_invariant followed reached ⟨_, .refl, rfl, matches_create⟩

end

/-- Whatever any number of threads do to the attributes one statement at a time, and
wherever their calls stand when nobody holds the lock, the steps of `TunnelClient`
do and lead to. -/
theorem threads_refine (P : Primitives) (maxRetries : ℕ)
    (events : List (ℕ × MethodEvent)) (s : TunnelThreads)
    (reached : run (threadsStep P maxRetries) .create events = some s)
    (free : s.lock = none) :
    ∃ c, Relation.ReflTransGen TunnelClient.Step (.create maxRetries) c ∧
      Matches { points := s.points, shared := s.shared } c := by
  obtain ⟨serial, ran, -⟩ := Monitor.serial_of_run
    (methodProgram_lawful (P := P)) methodProgram_blind (outside_done _)
    settled_create reached free
  obtain ⟨calls, called, -⟩ := run_matched Serial.seen
    (fun _ _ _ _ stepped => callers_of_serial stepped) ran
  obtain ⟨c, steps, -, agree⟩ := callers_followed called
  exact ⟨c, steps, agree⟩

end VpnTunnel.Client
