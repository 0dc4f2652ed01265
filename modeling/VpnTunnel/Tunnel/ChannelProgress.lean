import Mathlib.Data.Prod.Lex
import VpnTunnel.Foundation.Progress
import VpnTunnel.Tunnel.DirectCalls

namespace VpnTunnel.Tunnel

open VpnTunnel.Crypto
open VpnTunnel.Foundation
open VpnTunnel.Client
open VpnTunnel.Server

/-! The turn of the thread that has the lock comes to an end, if `forward_request`
does: that it returns is one step here. -/

/-- What goes on beside a turn. -/
def Beside (_ : Channel) : ChannelEvent → Prop
  | .call _ _ | .others _ => True
  | _ => False

/-- What belongs to a turn: not a call, and not the taking of the lock.  A turn that
times out is none. -/
def InTurn (s : Channel) : ChannelEvent → Prop
  | .call _ _ | .others _ | .timeout _ _ => False
  | .next thread => (s.client.points thread).inside = true
  | _ => True

def pointRank : MethodPoint → ℕ
  | .entered _ => 10
  | .sendFrame _ _ => 9
  | .recvFrame _ _ => 1
  | _ => 0

def turnRank (client : TunnelThreads) : ℕ :=
  match client.lock with
  | none => 0
  | some thread => pointRank (client.points thread)

theorem timely_of_pace {s : Channel} {event : ChannelEvent}
    (goes : Beside s event ∨ InTurn s event) : Timely s event := by
  cases event with
  | timeout thread cuts => exact goes.elim id id
  | _ => exact trivial

/-- A request that the server has yet to read is worth its steps with it. -/
def requestRank (upstream : Pipe) : ℕ := if upstream.stream = [] then 0 else 7

def handlerRank : HandlerPoint → ℕ
  | .accessControl | .connectionCap | .handshake => 0
  | .serving _ (.touch _) => 10
  | .serving _ (.findBucket _) => 9
  | .serving _ (.consume _) => 8
  | .serving _ (.forward _) => 7
  | .serving _ .rateError | .serving _ (.respond _) => 6
  | .serving _ .idleCheck => 5
  | .serving _ .receive => 4
  | .release => 3
  | .close => 2
  | .closed => 1

/-- The statements that are still to come, then the bytes on their way. -/
def Channel.rank (s : Channel) : ℕ ×ₗ ℕ :=
  toLex (turnRank s.client + requestRank s.upstream + handlerRank s.handler.point,
    s.upstream.inflight.length + s.downstream.inflight.length)

section

variable {P : Primitives} {keys : SessionKeys} {maxRetries : ℕ}
  {s next : Channel} {d : Direct} {client : TunnelThreads} {thread : ℕ}
  {limiter after : RateLimiter} {h moved : Handler}

theorem turnRank_of_lock (lock : client.lock = some thread) :
    turnRank client = pointRank (client.points thread) := by
  rw [turnRank, lock]

theorem turnRank_moved (lock : client.lock = some thread) (point : MethodPoint)
    (shared : Tunnel) :
    turnRank { client.goto thread point with shared } = pointRank point := by
  have still : ({ client.goto thread point with shared } : TunnelThreads).lock =
      some thread := lock
  rw [turnRank_of_lock still]
  exact congrArg pointRank (Monitor.goto_self thread point)

theorem turnRank_aside (free : client.lock ≠ some thread) (point : MethodPoint) :
    turnRank (client.goto thread point) = turnRank client := by
  change (match client.lock with
    | none => 0
    | some holder => pointRank ((client.goto thread point).points holder)) = _
  rw [turnRank]
  cases lock : client.lock with
  | none => rfl
  | some holder =>
      have other : holder ≠ thread := by
        rintro rfl
        exact free lock
      simp only [Monitor.goto_other point other]

theorem rank_lt_of_first
    (lower : turnRank next.client + requestRank next.upstream +
        handlerRank next.handler.point <
      turnRank s.client + requestRank s.upstream + handlerRank s.handler.point) :
    next.rank < s.rank :=
  Prod.Lex.toLex_lt_toLex.mpr (.inl lower)

theorem rank_lt_of_client {upstream downstream : Pipe}
    (lower : turnRank client + requestRank upstream <
      turnRank s.client + requestRank s.upstream) :
    Channel.rank { s with client, upstream, downstream } < s.rank :=
  rank_lt_of_first (Nat.add_lt_add_right lower _)

theorem requestRank_le (upstream : Pipe) : requestRank upstream ≤ 7 := by
  unfold requestRank
  split <;> omega

/-- Every statement off the socket takes the thread further. -/
theorem serveStep_rank {point : ServePoint} {event : HandlerEvent}
    (offSocket : isSocketEvent event = false)
    (stepped : serveStep P limiter h keys point event = some (after, moved)) :
    handlerRank moved.point < handlerRank (.serving keys point) := by
  unfold serveStep at stepped
  split at stepped
  case h_1 now =>
    split at stepped
    all_goals
      cases stepped
      simp [handlerRank, Handler.goto]
  case h_2 => cases offSocket
  case h_3 | h_4 =>
    cases stepped
    simp [handlerRank, Handler.goto]
  case h_5 request now =>
    dsimp only at stepped
    split at stepped
    all_goals
      cases stepped
      simp [handlerRank, Handler.goto, Handler.record]
  case h_6 => cases offSocket
  case h_7 request outcome =>
    cases stepped
    simp [handlerRank, Handler.goto, Handler.record]
  case h_8 => cases offSocket
  case h_9 => cases stepped

theorem afterException_rank (within : Within keys h.point)
    (caught : h.afterException = some moved) :
    handlerRank moved.point < handlerRank h.point := by
  unfold Handler.afterException at caught
  split at caught
  case h_1 here | h_2 here | h_3 here =>
    rw [here] at within
    exact within.elim
  case h_4 current point here =>
    cases caught
    rw [here]
    cases point <;> simp [handlerRank, Handler.goto]
  all_goals cases caught

theorem handlerStep_rank {event : HandlerEvent} (within : Within keys h.point)
    (offSocket : isSocketEvent event = false)
    (stepped : handlerStep P limiter h event = some (after, moved)) :
    handlerRank moved.point < handlerRank h.point := by
  unfold handlerStep at stepped
  split at stepped
  case h_1 failure =>
    obtain ⟨caught, raised, pair⟩ := Option.map_eq_some_iff.mp stepped
    cases pair
    exact afterException_rank within raised
  case h_2 =>
    split at stepped
    case h_1 here _ | h_2 here _ | h_3 here _ =>
      rw [here] at within
      exact within.elim
    case h_4 current point here _ =>
      rw [here]
      exact serveStep_rank offSocket stepped
    case h_5 here _ =>
      cases stepped
      rw [here]
      simp [handlerRank, Handler.goto]
    case h_6 here _ =>
      cases stepped
      rw [here]
      simp [handlerRank, Handler.goto]
    case h_7 => cases stepped

theorem sendReply_rank (P : Primitives) (h : Handler) (keys : SessionKeys)
    (msgType : MessageType) (payload : Bytes) (urandom : GcmNonce) :
    handlerRank (h.sendReply P keys msgType payload urandom none).point < 6 := by
  unfold Handler.sendReply
  cases buildFrame P msgType keys.sessionId payload (some keys.encKey)
      (some keys.macKey) urandom with
  | error error => simp [handlerRank, Handler.goto]
  | ok frame => simp [handlerRank, Handler.goto]

/-! Each step of a turn lowers the rank. -/

theorem Follows.rank_server (follows : Follows P keys s d) {event : HandlerEvent}
    (offSocket : isSocketEvent event = false)
    (stepped : s.handlerDo P event = some next) : next.rank < s.rank := by
  obtain ⟨limiter, handler, inner, rfl⟩ := handlerDo_eq_some stepped
  exact rank_lt_of_first
    (Nat.add_lt_add_left (handlerStep_rank follows.within offSocket inner) _)

theorem rank_serverSend {urandom : GcmNonce}
    (stepped : s.handlerDo P (.sent urandom none) = some next) :
    next.rank < s.rank := by
  obtain ⟨limiter, handler, inner, rfl⟩ := handlerDo_eq_some stepped
  obtain ⟨keys, msgType, payload, rfl, replies⟩ := handlerStep_sent inner
  have lower := sendReply_rank P s.handler keys msgType payload urandom
  have before : handlerRank s.handler.point = 6 := by
    rcases replies with ⟨here, -⟩ | ⟨here, -⟩ <;> (rw [here]; rfl)
  rw [← before] at lower
  exact rank_lt_of_first (Nat.add_lt_add_left lower _)

theorem Follows.rank_serverReceive (follows : Follows P keys s d) {cuts : List ℕ}
    (stepped : s.serverReceive P cuts = some next) : next.rank < s.rank := by
  obtain ⟨request, attempt, upstream, here, spoken, sent, -, -, -, rfl⟩ :=
    follows.accepts stepped
  apply rank_lt_of_first
  rw [requestRank, if_pos sent, requestRank, if_neg spoken, here]
  change turnRank s.client + 0 + 10 < turnRank s.client + 7 + 4
  omega

theorem Follows.rank_enter (follows : Follows P keys s d)
    (inside : (s.client.points thread).inside = true)
    (stepped : s.next P maxRetries thread = some next) : next.rank < s.rank := by
  have lock := (follows.exclusive thread).mp inside
  unfold Channel.next at stepped
  split at stepped
  case h_1 here =>
    rw [here] at inside
    cases inside
  case h_2 request attempt here =>
    obtain ⟨deed, client, does, performed, rfl, -⟩ := clientDo_eq_some stepped
    rw [here, methodProgram, if_neg follows.up] at does
    cases does
    cases performed
    have before := turnRank_of_lock lock
    rw [here] at before
    refine rank_lt_of_client (s := s) (Nat.add_lt_add_right ?_ _)
    rw [before, turnRank_moved lock (.sendFrame request attempt)]
    exact Nat.lt_succ_self 9
  case h_3 => cases stepped

theorem Follows.rank_send (follows : Follows P keys s d) {urandom : GcmNonce}
    (stepped : s.send P maxRetries thread urandom = some next) :
    next.rank < s.rank := by
  unfold Channel.send at stepped
  split at stepped
  case h_2 => cases stepped
  case h_1 request attempt here =>
    obtain ⟨middle, done, rfl⟩ := Option.map_eq_some_iff.mp stepped
    obtain ⟨deed, client, does, performed, rfl, -⟩ := clientDo_eq_some done
    have lock : s.client.lock = some thread :=
      (follows.exclusive thread).mp (by rw [here]; rfl)
    have before := turnRank_of_lock lock
    rw [here] at before
    rw [here, methodProgram] at does
    have asks := requestRank_le (s.upstream.write ((requestBytes P
      s.client.shared.attributes request urandom).getD []) false)
    rcases sendRequest_of_session (P := P) follows.session request urandom with
      ⟨frame, -, -, sent⟩ | ⟨error, -, sent⟩
    · rw [sent] at does
      cases does
      cases performed
      refine rank_lt_of_client (s := s) ?_
      rw [before, turnRank_moved lock (.recvFrame request attempt)]
      exact Nat.lt_of_le_of_lt (Nat.add_le_add_left asks 1)
        (Nat.lt_add_right _ (Nat.lt_succ_self 8))
    · rw [sent] at does
      cases does
      cases performed
      refine rank_lt_of_client (s := s) ?_
      rw [before]
      exact Nat.lt_of_le_of_lt (Nat.add_le_add_left asks 0)
        (Nat.lt_add_right _ (Nat.lt_add_of_pos_right Nat.two_pos))

theorem Follows.rank_receive (follows : Follows P keys s d) {cuts : List ℕ}
    (stepped : s.receive P maxRetries thread cuts = some next) :
    next.rank < s.rank := by
  unfold Channel.receive at stepped
  split at stepped
  case h_2 => cases stepped
  case h_1 request attempt here =>
    obtain ⟨⟨result, downstream⟩, -, stepped⟩ := Option.bind_eq_some_iff.mp stepped
    obtain ⟨middle, done, same⟩ := Option.bind_eq_some_iff.mp stepped
    cases same
    obtain ⟨deed, client, does, performed, rfl, -⟩ := clientDo_eq_some done
    have lock : s.client.lock = some thread :=
      (follows.exclusive thread).mp (by rw [here]; rfl)
    have before := turnRank_of_lock lock
    rw [here] at before
    rw [here, methodProgram] at does
    split at does
    all_goals
      cases does
      cases performed
      refine rank_lt_of_client (s := s) (Nat.add_lt_add_right ?_ _)
      rw [before]
      exact Nat.zero_lt_one

theorem rank_lt_of_second
    (same : turnRank next.client + requestRank next.upstream +
        handlerRank next.handler.point =
      turnRank s.client + requestRank s.upstream + handlerRank s.handler.point)
    (fewer : next.upstream.inflight.length + next.downstream.inflight.length <
      s.upstream.inflight.length + s.downstream.inflight.length) :
    next.rank < s.rank :=
  Prod.Lex.toLex_lt_toLex.mpr (.inr ⟨same, fewer⟩)

theorem Follows.rank_inTurn (follows : Follows P keys s d) {event : ChannelEvent}
    (turn : InTurn s event)
    (stepped : channelStep P maxRetries s event = some next) :
    next.rank < s.rank := by
  cases event with
  | call thread request => exact turn.elim
  | next thread => exact follows.rank_enter turn stepped
  | send thread urandom => exact follows.rank_send stepped
  | receive thread cuts => exact follows.rank_receive stepped
  | timeout thread cuts => exact turn.elim
  | server event =>
      rw [channelStep] at stepped
      split at stepped
      case isTrue => cases stepped
      case isFalse offSocket =>
        exact follows.rank_server (Bool.eq_false_iff.mpr offSocket) stepped
  | serverReceive cuts => exact follows.rank_serverReceive stepped
  | serverSend urandom => exact rank_serverSend stepped
  | others limiter => exact turn.elim
  | upstream size =>
      obtain ⟨upstream, delivered, rfl⟩ := Option.map_eq_some_iff.mp stepped
      obtain ⟨stream, -, fewer⟩ := Pipe.deliver_eq_some delivered
      refine rank_lt_of_second ?_ (Nat.add_lt_add_right fewer _)
      rw [requestRank, stream]
      rfl
  | downstream size =>
      obtain ⟨downstream, delivered, rfl⟩ := Option.map_eq_some_iff.mp stepped
      obtain ⟨-, -, fewer⟩ := Pipe.deliver_eq_some delivered
      exact rank_lt_of_second rfl (Nat.add_lt_add_left fewer _)

/-- What goes on beside a turn does not hold it up. -/
theorem Follows.rank_beside (follows : Follows P keys s d) {event : ChannelEvent}
    (beside : Beside s event)
    (stepped : channelStep P maxRetries s event = some next) :
    next.rank = s.rank := by
  cases event with
  | call thread request =>
      obtain ⟨deed, client, does, performed, rfl, -⟩ := clientDo_eq_some stepped
      obtain ⟨⟨outcome, here⟩, rfl⟩ := methodProgram_call does
      cases performed
      have free : s.client.lock ≠ some thread := by
        intro lock
        have inside := (follows.exclusive thread).mpr lock
        rw [here] at inside
        cases inside
      rw [Channel.rank, turnRank_aside free]
      rfl
  | others limiter =>
      cases stepped
      rfl
  | _ => exact beside.elim

/-! While a thread has the lock there is a step to make. -/

/-- The code's own doing: not an exception out of nowhere, nor the return of
`forward_request`. -/
def Regular : ChannelEvent → Prop
  | .server (.raised _) | .server (.forwarded _) => False
  | _ => True

def CanGoOn (P : Primitives) (maxRetries : ℕ) (s : Channel) : Prop :=
  ∃ event next, InTurn s event ∧ Regular event ∧
    channelStep P maxRetries s event = some next

/-- `handle_client` waits for `forward_request`, and goes on with what it returns or
raises. -/
def InForward (P : Primitives) (maxRetries : ℕ) (s : Channel) : Prop :=
  ∀ outcome, ∃ next,
    channelStep P maxRetries s (.server (.forwarded outcome)) = some next

theorem handlerDo_isSome {event : HandlerEvent}
    (able : (handlerStep P s.limiter s.handler event).isSome = true) :
    ∃ next, s.handlerDo P event = some next := by
  obtain ⟨pair, inner⟩ := Option.isSome_iff_exists.mp able
  exact ⟨_, Option.map_eq_some_iff.mpr ⟨pair, inner, rfl⟩⟩

theorem goesOn_server (event : HandlerEvent) (offSocket : isSocketEvent event = false)
    (regular : Regular (.server event))
    (able : (handlerStep P s.limiter s.handler event).isSome = true) :
    CanGoOn P maxRetries s := by
  obtain ⟨next, done⟩ := handlerDo_isSome able
  refine ⟨.server event, next, trivial, regular, ?_⟩
  rw [channelStep, offSocket]
  exact done

theorem goesOn_serverSend
    (able : (handlerStep P s.limiter s.handler (.sent zeroNonce none)).isSome = true) :
    CanGoOn P maxRetries s := by
  obtain ⟨next, done⟩ := handlerDo_isSome able
  exact ⟨.serverSend zeroNonce, next, trivial, trivial, done⟩

theorem inForward_of_point {request : Bytes}
    (here : s.handler.point = .serving keys (.forward request)) :
    InForward P maxRetries s := by
  intro outcome
  have able : (handlerStep P s.limiter s.handler (.forwarded outcome)).isSome =
      true := by
    simp [handlerStep, here, serveStep]
  obtain ⟨next, done⟩ := handlerDo_isSome able
  exact ⟨next, done⟩

/-- `handle_client` waits for nothing but a request and `forward_request`. -/
theorem handler_goesOn (within : Within keys s.handler.point)
    (reads : s.handler.point ≠ .serving keys .receive)
    (opened : s.handler.point ≠ .closed) :
    CanGoOn P maxRetries s ∨ InForward P maxRetries s := by
  cases here : s.handler.point with
  | accessControl | connectionCap | handshake =>
      rw [here] at within
      exact within.elim
  | release =>
      exact .inl (goesOn_server .released rfl trivial (by simp [handlerStep, here]))
  | close =>
      exact .inl (goesOn_server .closed rfl trivial (by simp [handlerStep, here]))
  | closed => exact absurd here opened
  | serving current point =>
      rw [here] at within
      obtain rfl : current = keys := within
      cases point with
      | idleCheck =>
          refine .inl (goesOn_server (.checkIdle 0) rfl trivial ?_)
          simp only [handlerStep, here, serveStep]
          split <;> rfl
      | receive => exact absurd here reads
      | touch request =>
          exact .inl (goesOn_server (.touched 0) rfl trivial
            (by simp [handlerStep, here, serveStep]))
      | findBucket request =>
          exact .inl (goesOn_server (.foundBucket 0) rfl trivial
            (by simp [handlerStep, here, serveStep]))
      | consume request =>
          refine .inl (goesOn_server (.consumed 0) rfl trivial ?_)
          simp only [handlerStep, here, serveStep]
          split <;> rfl
      | forward request =>
          exact .inr (inForward_of_point here)
      | rateError | respond response =>
          exact .inl (goesOn_serverSend (by simp [handlerStep, here, serveStep]))

theorem clientDo_of_inside {event : MethodEvent}
    (inside : (s.client.points thread).inside = true)
    (does : ∃ deed, methodProgram P maxRetries (s.client.points thread)
      s.client.shared event = some deed) :
    ∃ next, s.clientDo P maxRetries thread event = some next := by
  obtain ⟨deed, does⟩ := does
  have leaves (point : MethodPoint) : deed ≠ .acquire point := by
    rintro rfl
    exact (methodProgram_lawful (P := P) _ _ _ _ does).1 inside
  obtain ⟨client, performed⟩ := Monitor.perform_isSome thread (.inr leaves)
  refine ⟨{ s with client }, ?_⟩
  rw [Channel.clientDo, threadsStep, monitorStep, does, Option.bind_some, performed]
  rfl

theorem Follows.goesOn_receive (follows : Follows P keys s d) {request : Bytes}
    {attempt : ℕ} {downstream : Pipe}
    {result : Except PyError (MessageType × Bytes × Bytes)}
    (here : s.client.points thread = .recvFrame request attempt)
    (received : s.downstream.recvFrame P (some keys.encKey) (some keys.macKey)
      [] = some (result, downstream)) : CanGoOn P maxRetries s := by
  have inside : (s.client.points thread).inside = true := by
    rw [here]
    rfl
  have does : ∃ deed, methodProgram P maxRetries (s.client.points thread)
      s.client.shared (.received (s.downstream.sock [])) = some deed := by
    rw [here, methodProgram]
    split
    all_goals exact ⟨_, rfl⟩
  obtain ⟨next, done⟩ := clientDo_of_inside inside does
  refine ⟨.receive thread [], { next with downstream }, trivial, trivial, ?_⟩
  rw [channelStep, Channel.receive, here]
  dsimp only
  rw [follows.session]
  change (s.downstream.recvFrame P (some keys.encKey) (some keys.macKey) []).bind
    _ = _
  rw [received, Option.bind_some, done]
  rfl

theorem Follows.goesOn_downstream (follows : Follows P keys s d) {request payload : Bytes}
    {attempt : ℕ} {msgType : MessageType} {urandom : GcmNonce}
    (here : s.client.points thread = .recvFrame request attempt)
    (built : buildFrame P msgType keys.sessionId payload (some keys.encKey)
      (some keys.macKey) urandom = .ok s.downstream.stream) :
    CanGoOn P maxRetries s := by
  by_cases arrived : s.downstream.inflight = []
  · have received := Pipe.recvFrame_of_stream built rfl []
    rw [if_pos arrived] at received
    exact follows.goesOn_receive here received
  · obtain ⟨downstream, delivered⟩ : ∃ downstream,
        s.downstream.deliver 0 = some downstream := ⟨_, if_neg arrived⟩
    exact ⟨.downstream 0, { s with downstream }, trivial, trivial,
      Option.map_eq_some_iff.mpr ⟨downstream, delivered, rfl⟩⟩

theorem goesOn_upstream {request : Bytes} {urandom : GcmNonce}
    (here : s.handler.point = .serving keys .receive)
    (built : buildFrame P .dataRequest keys.sessionId request (some keys.encKey)
      (some keys.macKey) urandom = .ok s.upstream.stream) :
    CanGoOn P maxRetries s := by
  by_cases arrived : s.upstream.inflight = []
  · have received := Pipe.recvFrame_of_stream built rfl []
    rw [if_pos arrived] at received
    obtain ⟨rest, read⟩ := recvFrame_of_pipe received
    have able : (handlerStep P s.limiter s.handler
        (.received (s.upstream.sock []))).isSome = true := by
      rw [handlerStep_accept here read]
      rfl
    obtain ⟨next, done⟩ := handlerDo_isSome able
    refine ⟨.serverReceive [],
      { next with upstream := { s.upstream with arrived := [] } }, trivial, trivial,
      ?_⟩
    rw [channelStep, Channel.serverReceive, here]
    dsimp only
    change (s.upstream.recvFrame P (some keys.encKey) (some keys.macKey) []).bind
      _ = _
    rw [received, Option.bind_some, done]
    rfl
  · obtain ⟨upstream, delivered⟩ : ∃ upstream,
        s.upstream.deliver 0 = some upstream := ⟨_, if_neg arrived⟩
    exact ⟨.upstream 0, { s with upstream }, trivial, trivial,
      Option.map_eq_some_iff.mpr ⟨upstream, delivered, rfl⟩⟩

/-- Where a thread of the session stands that has the lock. -/
theorem Sees.holder {point : MethodPoint} {also : DirectPoint}
    (sees : Sees point also) (inside : point.inside = true) :
    ∃ request attempt, point = .entered (.doRequest request attempt) ∨
      point = .sendFrame request attempt ∨ point = .recvFrame request attempt := by
  unfold Sees at sees
  split at sees
  case h_1 | h_2 | h_7 => cases inside
  case h_3 request attempt also => exact ⟨request, attempt, .inl rfl⟩
  case h_4 request attempt also => exact ⟨request, attempt, .inr (.inl rfl)⟩
  case h_5 request attempt also => exact ⟨request, attempt, .inr (.inr rfl)⟩
  case h_6 request attempt also response =>
    exact ⟨request, attempt, .inr (.inr rfl)⟩
  case h_8 => exact sees.elim

theorem Follows.goesOn_reply (follows : Follows P keys s d) {request : Bytes}
    {attempt : ℕ} (lock : s.client.lock = some thread)
    (here : s.client.points thread = .recvFrame request attempt) :
    CanGoOn P maxRetries s ∨ InForward P maxRetries s := by
  by_cases reads : s.handler.point = .serving keys .receive
  · left
    have loop : phaseOf s.handler.point = .loop := by
      rw [reads]
      rfl
    cases follows.stage with
    | resting _ sent silent quiet =>
        have held := holding_of_lock (d := d) lock
        rw [here] at held
        cases quiet _ held
    | asked _ built silent waits => exact goesOn_upstream reads built
    | working hand sent silent waits =>
        rcases hand with hand | hand <;> cases loop.symm.trans hand
    | responding hand sent silent waits => cases loop.symm.trans hand
    | answered after sent built answers waits =>
        exact follows.goesOn_downstream here built
    | ended gone silent => cases loop.symm.trans gone
  by_cases closed : s.handler.point = .closed
  · left
    have ended : phaseOf s.handler.point = .ended := by
      rw [closed]
      rfl
    cases follows.stage with
    | resting loop sent silent quiet => cases ended.symm.trans loop
    | asked loop built silent waits => cases ended.symm.trans loop
    | working hand sent silent waits =>
        rcases hand with hand | hand <;> cases ended.symm.trans hand
    | responding hand sent silent waits => cases ended.symm.trans hand
    | answered after sent built answers waits =>
        exact follows.goesOn_downstream here built
    | ended _ silent =>
        obtain ⟨message, failed⟩ := Pipe.recvFrame_of_closed (P := P)
          silent (follows.closes.mpr closed) []
        exact follows.goesOn_receive here failed
  exact handler_goesOn follows.within reads closed

theorem Follows.goesOn (follows : Follows P keys s d)
    (lock : s.client.lock = some thread) :
    CanGoOn P maxRetries s ∨ InForward P maxRetries s := by
  have inside := (follows.exclusive thread).mpr lock
  obtain ⟨request, attempt, here | here | here⟩ :=
    (follows.sees thread).holder inside
  · left
    have does : ∃ deed, methodProgram P maxRetries (s.client.points thread)
        s.client.shared .next = some deed := by
      rw [here]
      exact ⟨_, if_neg follows.up⟩
    obtain ⟨next, done⟩ := clientDo_of_inside inside does
    refine ⟨.next thread, next, inside, trivial, ?_⟩
    rw [channelStep, Channel.next, here]
    exact done
  · left
    have does : ∃ deed, methodProgram P maxRetries (s.client.points thread)
        s.client.shared (.sent zeroNonce none) = some deed := by
      rw [here, methodProgram]
      split
      all_goals exact ⟨_, rfl⟩
    obtain ⟨next, done⟩ := clientDo_of_inside inside does
    obtain ⟨after, sent⟩ : ∃ after,
        s.send P maxRetries thread zeroNonce = some after := by
      rw [Channel.send, here]
      exact ⟨_, Option.map_eq_some_iff.mpr ⟨next, done, rfl⟩⟩
    exact ⟨.send thread zeroNonce, after, trivial, trivial, sent⟩
  · exact follows.goesOn_reply lock here

end

/-- In every state that the session can reach without a time-out of the proxy's
`recv`: however the other threads call meanwhile, the steps of the thread that has
the lock, of the server and of the network come to an end; until it leaves the lock
there is a regular one to make, or the server waits for `forward_request` alone.
While the lock is free any thread that waits can take it. -/
theorem tunnel_turns_end (P : Primitives) (maxRetries : ℕ)
    (retries : 0 < maxRetries) (keys : SessionKeys) (limiter : RateLimiter) (ip : Ip)
    (events : List ChannelEvent) (s : Channel)
    (timely : Along (channelStep P maxRetries) Timely (.start keys limiter ip) events)
    (reached : run (channelStep P maxRetries) (.start keys limiter ip) events =
      some s) :
    Acc (Pace (channelStep P maxRetries) Beside InTurn) s ∧
      (∀ thread, s.client.lock = some thread →
        CanGoOn P maxRetries s ∨ InForward P maxRetries s) ∧
      (s.client.lock = none → ∀ thread request attempt,
        s.client.points thread = .waiting (.doRequest request attempt) →
          ∃ next, channelStep P maxRetries s (.next thread) = some next ∧
            next.client.lock = some thread) := by
  have preserves (now : Channel) (event : ChannelEvent) (next : Channel)
      (followed : ∃ d, Follows P keys now d) (timely : Timely now event)
      (stepped : channelStep P maxRetries now event = some next) :
      ∃ d, Follows P keys next d := by
    obtain ⟨d, follows⟩ := followed
    obtain ⟨also, -, after⟩ := follows.step retries timely stepped
    exact ⟨also, after⟩
  have rests (now : Channel) (event : ChannelEvent) (next : Channel)
      (followed : ∃ d, Follows P keys now d) (beside : Beside now event)
      (stepped : channelStep P maxRetries now event = some next) :
      next.rank = now.rank := by
    obtain ⟨d, follows⟩ := followed
    exact follows.rank_beside beside stepped
  have lowers (now : Channel) (event : ChannelEvent) (next : Channel)
      (followed : ∃ d, Follows P keys now d) (turn : InTurn now event)
      (stepped : channelStep P maxRetries now event = some next) :
      next.rank < now.rank := by
    obtain ⟨d, follows⟩ := followed
    exact follows.rank_inTurn turn stepped
  have followed := run_invariant_along preserves timely reached
    ⟨.start, follows_start P keys limiter ip⟩
  refine ⟨acc_pace (fun now event next followed goes =>
    preserves now event next followed (timely_of_pace goes)) rests lowers followed,
    ?_, ?_⟩
  · intro thread lock
    obtain ⟨d, follows⟩ := followed
    exact follows.goesOn lock
  · intro free thread request attempt here
    let client : TunnelThreads :=
      { s.client.goto thread (.entered (.doRequest request attempt)) with
        lock := some thread }
    have entered : s.client.perform thread
        (.acquire (.entered (.doRequest request attempt))) = some client :=
      if_pos free
    refine ⟨{ s with client }, ?_, rfl⟩
    rw [channelStep, Channel.next, here]
    dsimp only
    rw [Channel.clientDo, threadsStep, monitorStep, here]
    exact congrArg (Option.map fun client => { s with client }) entered

/-- While the first thread waits for its reply and the second for the lock. -/
theorem tunnel_turns_end_first :
    ∃ s, run (channelStep .transparent 3)
        (.start sampleKeys sampleLimiter "10.0.0.1") (sampleTurns.take 9) = some s ∧
      s.client.lock = some 0 ∧
      (CanGoOn .transparent 3 s ∨ InForward .transparent 3 s) ∧
      Acc (Pace (channelStep .transparent 3) Beside InTurn) s := by
  have ran : (run (channelStep .transparent 3)
      (.start sampleKeys sampleLimiter "10.0.0.1") (sampleTurns.take 9)).map
        (fun s => s.client.lock) = some (some 0) := by
    decide +kernel
  have timely : Along (channelStep .transparent 3) Timely
      (.start sampleKeys sampleLimiter "10.0.0.1") (sampleTurns.take 9) := by
    decide +kernel
  obtain ⟨s, reached, lock⟩ := Option.map_eq_some_iff.mp ran
  obtain ⟨ends, goes, -⟩ := tunnel_turns_end .transparent 3 (by decide) sampleKeys
    sampleLimiter "10.0.0.1" _ s timely reached
  exact ⟨s, reached, lock, goes 0 lock, ends⟩

end VpnTunnel.Tunnel
