import VpnTunnel.Server.ServeLoop
import VpnTunnel.Tunnel.Channel

namespace VpnTunnel.Tunnel

open VpnTunnel.Crypto
open VpnTunnel.Foundation
open VpnTunnel.Client
open VpnTunnel.Server

/-! What a thread of the proxy is for its caller. -/

/-- Where a thread stands in `send_request`, and where it stands when it calls
`forward_request`. -/
def Sees : MethodPoint → DirectPoint → Prop
  | .done (.returned last), .idle also => also = last
  | .waiting (.doRequest request _), .calling also => also = request
  | .entered (.doRequest request _), .calling also => also = request
  | .sendFrame request _, .calling also => also = request
  | .recvFrame request _, .calling also => also = request
  | .recvFrame request _, .returning also _ => also = request
  | .waiting (.reconnect request _ _), .failed also => also = request
  | _, _ => False

/-- The request of a thread that has not sent it yet. -/
def unsent : MethodPoint → Option Bytes
  | .waiting (.doRequest request _) | .entered (.doRequest request _)
  | .sendFrame request _ => some request
  | _ => none

theorem Sees.calling {point : MethodPoint} {also : DirectPoint} {request : Bytes}
    (sees : Sees point also) (waiting : unsent point = some request) :
    also = .calling request := by
  unfold unsent at waiting
  split at waiting
  case h_4 => cases waiting
  all_goals
    cases waiting
    cases also with
    | calling asked => exact congrArg DirectPoint.calling sees
    | _ => exact sees.elim

/-! The serve loop as the session goes through it. -/

inductive Phase
  | before
  | loop
  | carrying (request : Bytes)
  | refusing
  | responding (response : Bytes)
  | ended
  deriving DecidableEq

def phaseOf : HandlerPoint → Phase
  | .accessControl | .connectionCap | .handshake => .before
  | .serving _ .idleCheck | .serving _ .receive => .loop
  | .serving _ (.touch request) | .serving _ (.findBucket request)
  | .serving _ (.consume request) | .serving _ (.forward request) =>
      .carrying request
  | .serving _ .rateError => .refusing
  | .serving _ (.respond response) => .responding response
  | .release | .close | .closed => .ended

/-- A step that is not on the socket. -/
inductive PhaseMove (h next : Handler) : HandlerEvent → Prop
  | plain {event : HandlerEvent} (other : ∀ outcome, event ≠ .forwarded outcome)
      (log : forwardedRequests next.log = forwardedRequests h.log)
      (phase : phaseOf next.point = phaseOf h.point ∨
        phaseOf next.point = .ended ∨
        ∃ request, phaseOf h.point = .carrying request ∧
          phaseOf next.point = .refusing) : PhaseMove h next event
  | forwards {request : Bytes} {outcome : Except String Bytes}
      (before : phaseOf h.point = .carrying request)
      (after : phaseOf next.point = .responding (responseOf outcome))
      (log : forwardedRequests next.log =
        forwardedRequests h.log ++ [request]) :
      PhaseMove h next (.forwarded outcome)

section

variable {P : Primitives} {keys : SessionKeys} {limiter after : RateLimiter}
  {h next : Handler} {event : HandlerEvent}

theorem framesSince_self (point : HandlerPoint) :
    framesSince h (h.goto point) = [] := by
  simp [framesSince, Handler.goto]

theorem framesSince_record {action : HandlerAction} {point : HandlerPoint} :
    framesSince h ((h.record action).goto point) =
      [action].filterMap serverFrame := by
  simp [framesSince, Handler.goto, Handler.record]

theorem forwardedRequests_record (h : Handler) (action : HandlerAction) :
    forwardedRequests (h.record action).log =
      forwardedRequests h.log ++ forwardedRequests [action] :=
  forwardedRequests_append _ _

theorem serveStep_phase {point : ServePoint}
    (here : h.point = .serving keys point) (offSocket : isSocketEvent event = false)
    (stepped : serveStep P limiter h keys point event = some (after, next)) :
    PhaseMove h next event ∧ framesSince h next = [] ∧
      Within keys next.point := by
  unfold serveStep at stepped
  split at stepped
  case h_1 now =>
    split at stepped
    · cases stepped
      exact ⟨.plain nofun rfl (.inr (.inl rfl)), framesSince_self _, trivial⟩
    · cases stepped
      refine ⟨.plain nofun rfl (.inl ?_), framesSince_self _, rfl⟩
      rw [here]
      rfl
  case h_2 => cases offSocket
  case h_3 request now | h_4 request now =>
    cases stepped
    refine ⟨.plain nofun rfl (.inl ?_), framesSince_self _, rfl⟩
    rw [here]
    rfl
  case h_5 request now =>
    dsimp only at stepped
    split at stepped
    · cases stepped
      refine ⟨.plain nofun ?_ (.inl ?_), framesSince_record, rfl⟩
      · exact (forwardedRequests_record h .granted).trans (List.append_nil _)
      · rw [here]
        rfl
    · cases stepped
      refine ⟨.plain nofun rfl (.inr (.inr ⟨request, ?_, rfl⟩)),
        framesSince_self _, rfl⟩
      rw [here]
      rfl
  case h_6 => cases offSocket
  case h_7 request outcome =>
    cases stepped
    refine ⟨.forwards ?_ ?_ (forwardedRequests_record h (.forwarded request)),
      framesSince_record, rfl⟩
    · rw [here]
      rfl
    · cases outcome <;> rfl
  case h_8 => cases offSocket
  case h_9 => cases stepped

/-- What a step off the socket is for the session. -/
theorem handlerStep_phase (within : Within keys h.point)
    (offSocket : isSocketEvent event = false)
    (stepped : handlerStep P limiter h event = some (after, next)) :
    PhaseMove h next event ∧ framesSince h next = [] ∧
      Within keys next.point := by
  unfold handlerStep at stepped
  split at stepped
  case h_1 failure =>
    obtain ⟨caught, raised, pair⟩ := Option.map_eq_some_iff.mp stepped
    cases pair
    unfold Handler.afterException at raised
    split at raised
    case h_1 here | h_2 here | h_3 here =>
      rw [here] at within
      exact within.elim
    case h_4 =>
      cases raised
      exact ⟨.plain nofun rfl (.inr (.inl rfl)), framesSince_self _, trivial⟩
    all_goals cases raised
  case h_2 =>
    split at stepped
    case h_1 here _ | h_2 here _ | h_3 here _ =>
      rw [here] at within
      exact within.elim
    case h_4 current point here _ =>
      rw [here] at within
      obtain rfl : current = keys := within
      exact serveStep_phase here offSocket stepped
    case h_5 =>
      cases stepped
      refine ⟨.plain nofun ?_ (.inr (.inl rfl)), framesSince_record, trivial⟩
      exact (forwardedRequests_record h .released).trans (List.append_nil _)
    case h_6 =>
      cases stepped
      exact ⟨.plain nofun rfl (.inr (.inl rfl)), framesSince_self _, trivial⟩
    case h_7 => cases stepped

theorem sendReply_phase (h : Handler) (keys : SessionKeys) (msgType : MessageType)
    (payload : Bytes) (urandom : GcmNonce) :
    forwardedRequests (h.sendReply P keys msgType payload urandom none).log =
        forwardedRequests h.log ∧
      Within keys (h.sendReply P keys msgType payload urandom none).point ∧
      ((phaseOf (h.sendReply P keys msgType payload urandom none).point = .ended ∧
          framesSince h (h.sendReply P keys msgType payload urandom none) = []) ∨
        ∃ frame, buildFrame P msgType keys.sessionId payload (some keys.encKey)
            (some keys.macKey) urandom = .ok frame ∧
          phaseOf (h.sendReply P keys msgType payload urandom none).point = .loop ∧
          framesSince h (h.sendReply P keys msgType payload urandom none) =
            [frame]) := by
  unfold Handler.sendReply
  cases built : buildFrame P msgType keys.sessionId payload (some keys.encKey)
      (some keys.macKey) urandom with
  | error error =>
      refine ⟨?_, trivial, .inl ⟨rfl, framesSince_record⟩⟩
      exact (forwardedRequests_record h _).trans (List.append_nil _)
  | ok frame =>
      refine ⟨?_, rfl, .inr ⟨frame, rfl, rfl, ?_⟩⟩
      · simp [Handler.goto, Handler.record, forwardedRequests]
      · simp [framesSince, Handler.goto, Handler.record]
        rfl

end

/-! What holds of the session and of the direct calls together. -/

def holding (client : TunnelThreads) (d : Direct) :
    Option (MethodPoint × DirectPoint) :=
  client.lock.map fun thread => (client.points thread, d.points thread)

def isReceiving : MethodPoint → Bool
  | .recvFrame _ _ => true
  | _ => false

/-- The reply in flight is the one to the request. -/
def Answers (request : Bytes) (msgType : MessageType) (payload : Bytes) :
    DirectPoint → Prop
  | .returning asked response =>
      asked = request ∧ msgType = .dataResponse ∧ payload = response
  | .calling asked => asked = request ∧ msgType = .error
  | _ => False

/-- Where the one request is that may be under way. -/
inductive TurnStage (P : Primitives) (keys : SessionKeys) (phase : Phase)
    (up down : Bytes) (holder : Option (MethodPoint × DirectPoint)) : Prop
  | resting (loop : phase = .loop) (sent : up = []) (silent : down = [])
      (quiet : ∀ point ∈ holder, isReceiving point.1 = false)
  | asked {request : Bytes} {attempt : ℕ} {urandom : GcmNonce}
      (loop : phase = .loop)
      (built : buildFrame P .dataRequest keys.sessionId request
        (some keys.encKey) (some keys.macKey) urandom = .ok up)
      (silent : down = [])
      (waits : holder = some (.recvFrame request attempt, .calling request))
  | working {request : Bytes} {attempt : ℕ}
      (hand : phase = .carrying request ∨ phase = .refusing)
      (sent : up = []) (silent : down = [])
      (waits : holder = some (.recvFrame request attempt, .calling request))
  | responding {request response : Bytes} {attempt : ℕ}
      (hand : phase = .responding response) (sent : up = [])
      (silent : down = [])
      (waits : holder =
        some (.recvFrame request attempt, .returning request response))
  | answered {request payload : Bytes} {attempt : ℕ} {msgType : MessageType}
      {urandom : GcmNonce} {point : DirectPoint}
      (after : phase = .loop ∨ phase = .ended) (sent : up = [])
      (built : buildFrame P msgType keys.sessionId payload (some keys.encKey)
        (some keys.macKey) urandom = .ok down)
      (answers : Answers request msgType payload point)
      (waits : holder = some (.recvFrame request attempt, point))
  | ended (gone : phase = .ended) (silent : down = [])

section

variable {P : Primitives} {keys : SessionKeys} {up down : Bytes}
  {holder : Option (MethodPoint × DirectPoint)}

theorem TurnStage.of_carrying {request : Bytes}
    (stage : TurnStage P keys (.carrying request) up down holder) :
    up = [] ∧ down = [] ∧
      ∃ attempt, holder = some (.recvFrame request attempt, .calling request) := by
  cases stage with
  | @working asked attempt hand sent silent waits =>
      rcases hand with hand | hand
      · cases hand
        exact ⟨sent, silent, attempt, waits⟩
      · cases hand
  | resting loop sent silent quiet => cases loop
  | asked loop built silent waits => cases loop
  | responding hand sent silent waits => cases hand
  | answered after sent built answers waits =>
      rcases after with after | after <;> cases after
  | ended gone silent => cases gone

theorem TurnStage.of_refusing (stage : TurnStage P keys .refusing up down holder) :
    up = [] ∧ down = [] ∧ ∃ request attempt,
      holder = some (.recvFrame request attempt, .calling request) := by
  cases stage with
  | @working request attempt hand sent silent waits =>
      exact ⟨sent, silent, request, attempt, waits⟩
  | resting loop sent silent quiet => cases loop
  | asked loop built silent waits => cases loop
  | responding hand sent silent waits => cases hand
  | answered after sent built answers waits =>
      rcases after with after | after <;> cases after
  | ended gone silent => cases gone

theorem TurnStage.of_responding {response : Bytes}
    (stage : TurnStage P keys (.responding response) up down holder) :
    up = [] ∧ down = [] ∧ ∃ request attempt,
      holder = some (.recvFrame request attempt, .returning request response) := by
  cases stage with
  | @responding request _ attempt hand sent silent waits =>
      cases hand
      exact ⟨sent, silent, request, attempt, waits⟩
  | resting loop sent silent quiet => cases loop
  | asked loop built silent waits => cases loop
  | working hand sent silent waits => rcases hand with hand | hand <;> cases hand
  | answered after sent built answers waits =>
      rcases after with after | after <;> cases after
  | ended gone silent => cases gone

end

structure Follows (P : Primitives) (keys : SessionKeys) (s : Channel)
    (d : Direct) : Prop where
  exclusive : s.client.Exclusive fun point => point.inside = true
  session : s.client.shared.attributes = (establishedTunnel keys).attributes
  sees : ∀ thread, Sees (s.client.points thread) (d.points thread)
  executed : d.executed.map Prod.fst = forwardedRequests s.handler.log
  within : Within keys s.handler.point
  opened : s.upstream.closed = false
  closes : s.downstream.closed = true ↔ s.handler.point = .closed
  stage : TurnStage P keys (phaseOf s.handler.point) s.upstream.stream
    s.downstream.stream (holding s.client d)

/-- A step of the callers, or none. -/
def Direct.turn (d : Direct) : Option DirectEvent → Option Direct
  | none => some d
  | some event => directStep d event

section

variable {P : Primitives} {keys : SessionKeys} {maxRetries : ℕ}
  {s next : Channel} {d : Direct} {client : TunnelThreads} {thread : ℕ}

theorem holding_of_lock (lock : client.lock = some thread) :
    holding client d = some (client.points thread, d.points thread) := by
  rw [holding, lock]
  rfl

theorem holding_goto {point : MethodPoint} (lock : client.lock = some thread)
    (here : client.points thread = point) (also : DirectPoint) :
    holding client (d.goto thread also) = some (point, also) := by
  rw [holding_of_lock lock, here, Direct.goto_self]

theorem holding_moved (lock : client.lock = some thread) (point : MethodPoint)
    (shared : Tunnel) :
    holding { client.goto thread point with shared } d =
      some (point, d.points thread) := by
  change client.lock.map _ = _
  rw [lock, Option.map_some, Monitor.goto_self]

theorem lock_of_holding {point : MethodPoint} {also : DirectPoint}
    (held : holding client d = some (point, also)) :
    ∃ thread, client.lock = some thread ∧ client.points thread = point ∧
      d.points thread = also := by
  obtain ⟨thread, lock, both⟩ := Option.map_eq_some_iff.mp held
  obtain ⟨same, alsoSame⟩ := Prod.mk.inj both
  exact ⟨thread, lock, same, alsoSame⟩

theorem holding_aside (free : client.lock ≠ some thread) (point : MethodPoint)
    (also : DirectPoint) :
    holding (client.goto thread point) (d.goto thread also) = holding client d := by
  change client.lock.map _ = client.lock.map _
  cases lock : client.lock with
  | none => rfl
  | some holder =>
      have other : holder ≠ thread := by
        rintro rfl
        exact free lock
      simp only [Option.map_some, Monitor.goto_other point other,
        Direct.goto_other d also other]

theorem sees_update {points : ℕ → MethodPoint}
    (sees : ∀ thread, Sees (points thread) (d.points thread))
    {point : MethodPoint} {also : DirectPoint} (thread : ℕ)
    (own : Sees point also) (other : ℕ) :
    Sees (Function.update points thread point other)
      ((d.goto thread also).points other) := by
  by_cases same : other = thread
  · subst same
    rw [Function.update_self, Direct.goto_self]
    exact own
  · rw [Function.update_of_ne same, Direct.goto_other d also same]
    exact sees other

theorem goto_same (d : Direct) (thread : ℕ) :
    d.goto thread (d.points thread) = d := by
  rw [Direct.goto, Function.update_eq_self]

/-! The server's side. -/

theorem Follows.plain (follows : Follows P keys s d) {limiter : RateLimiter}
    {handler : Handler} {closes : Bool}
    (log : forwardedRequests handler.log = forwardedRequests s.handler.log)
    (phase : phaseOf handler.point = phaseOf s.handler.point ∨
      phaseOf handler.point = .ended ∨
      ∃ request, phaseOf s.handler.point = .carrying request ∧
        phaseOf handler.point = .refusing)
    (within : Within keys handler.point)
    (closed : closes = true ↔ handler.point = .closed) :
    Follows P keys
      { s with limiter, handler, downstream := s.downstream.write [] closes }
      d where
  exclusive := follows.exclusive
  session := follows.session
  sees := follows.sees
  executed := follows.executed.trans log.symm
  within := within
  opened := follows.opened
  closes := closed
  stage := by
    rw [Pipe.stream_write, List.append_nil]
    rcases phase with same | gone | ⟨request, carrying, refusing⟩
    · rw [same]
      exact follows.stage
    · rw [gone]
      cases follows.stage with
      | resting loop sent silent quiet => exact .ended rfl silent
      | asked loop built silent waits => exact .ended rfl silent
      | working hand sent silent waits => exact .ended rfl silent
      | responding hand sent silent waits => exact .ended rfl silent
      | answered after sent built answers waits =>
          exact .answered (.inr rfl) sent built answers waits
      | ended gone silent => exact .ended rfl silent
    · have stage := follows.stage
      rw [carrying] at stage
      obtain ⟨sent, silent, attempt, waits⟩ := stage.of_carrying
      rw [refusing]
      exact .working (.inr rfl) sent silent waits

/-- `forward_request` runs: for the thread that waits, and with its request. -/
theorem Follows.forward (follows : Follows P keys s d) {limiter : RateLimiter}
    {handler : Handler} {request response : Bytes} {closes : Bool}
    (before : phaseOf s.handler.point = .carrying request)
    (after : phaseOf handler.point = .responding response)
    (log : forwardedRequests handler.log =
      forwardedRequests s.handler.log ++ [request])
    (within : Within keys handler.point)
    (closed : closes = true ↔ handler.point = .closed) :
    ∃ thread also, s.client.lock = some thread ∧
      directStep d (.forward thread response) = some also ∧
      Follows P keys
        { s with limiter, handler, downstream := s.downstream.write [] closes }
        also := by
  have stage := follows.stage
  rw [before] at stage
  obtain ⟨sent, silent, attempt, waits⟩ := stage.of_carrying
  obtain ⟨thread, lock, point, calling⟩ := lock_of_holding waits
  refine ⟨thread, { d.goto thread (.returning request response) with
    executed := d.executed ++ [(request, response)] }, lock, ?_, ?_⟩
  · rw [directStep, calling]
  · have own : Sees (s.client.points thread) (.returning request response) := by
      rw [point]
      rfl
    have sees := sees_update follows.sees thread own
    rw [Function.update_eq_self] at sees
    exact
      { exclusive := follows.exclusive
        session := follows.session
        sees := sees
        executed := by
          rw [List.map_append, follows.executed, log]
          rfl
        within := within
        opened := follows.opened
        closes := closed
        stage := by
          rw [Pipe.stream_write, List.append_nil, after]
          exact .responding rfl sent silent (holding_goto lock point _) }

theorem directEvent_server {event : HandlerEvent}
    (plain : ∀ outcome, event ≠ .forwarded outcome) :
    directEvent P s (.server event) = none := by
  cases event with
  | forwarded outcome => exact absurd rfl (plain outcome)
  | _ => rfl

theorem handlerDo_eq_some {event : HandlerEvent}
    (stepped : s.handlerDo P event = some next) :
    ∃ limiter handler,
      handlerStep P s.limiter s.handler event = some (limiter, handler) ∧
      next = { s with
        limiter
        handler
        downstream := s.downstream.write (framesSince s.handler handler).flatten
          (handler.point = .closed) } := by
  obtain ⟨⟨limiter, handler⟩, inner, rfl⟩ := Option.map_eq_some_iff.mp stepped
  exact ⟨limiter, handler, inner, rfl⟩

theorem Follows.server (follows : Follows P keys s d) {event : HandlerEvent}
    (offSocket : isSocketEvent event = false)
    (stepped : s.handlerDo P event = some next) :
    ∃ also, d.turn (directEvent P s (.server event)) = some also ∧
      Follows P keys next also := by
  obtain ⟨limiter, handler, inner, rfl⟩ := handlerDo_eq_some stepped
  obtain ⟨move, frames, within⟩ :=
    handlerStep_phase follows.within offSocket inner
  rw [frames, List.flatten_nil]
  cases move with
  | plain other log phase =>
      refine ⟨d, ?_, follows.plain log phase within decide_eq_true_iff⟩
      rw [directEvent_server other]
      rfl
  | @forwards request outcome before after log =>
      obtain ⟨thread, also, lock, turned, follows'⟩ :=
        follows.forward before after log within decide_eq_true_iff
      refine ⟨also, ?_, follows'⟩
      rw [directEvent, lock]
      exact turned

theorem recvFrame_of_pipe {pipe after : Pipe} {cuts : List ℕ}
    {encKey macKey : Option Bytes}
    {result : Except PyError (MessageType × Bytes × Bytes)}
    (received : pipe.recvFrame P encKey macKey cuts = some (result, after)) :
    ∃ rest, recvFrame P encKey macKey (pipe.sock cuts) =
      match result with
      | .ok frame => .ok frame rest
      | .error error => .error error rest := by
  unfold Pipe.recvFrame at received
  split at received
  case h_1 frame rest read =>
    cases received
    exact ⟨rest, read⟩
  case h_2 => cases received
  case h_3 error rest _ read =>
    cases received
    exact ⟨rest, read⟩

theorem handlerStep_accept {limiter : RateLimiter} {h : Handler} {stream rest : Sock}
    {sessionId request : Bytes} (here : h.point = .serving keys .receive)
    (received : recvFrame P (some keys.encKey) (some keys.macKey) stream =
      .ok (.dataRequest, sessionId, request) rest) :
    handlerStep P limiter h (.received stream) =
      some (limiter, (h.record (.accepted request)).goto
        (.serving keys (.touch request))) := by
  simp [handlerStep, here, serveStep, received]

/-- What `handle_client` reads is the request of the thread that waits. -/
theorem Follows.accepts (follows : Follows P keys s d) {cuts : List ℕ}
    (stepped : s.serverReceive P cuts = some next) :
    ∃ request attempt upstream, s.handler.point = .serving keys .receive ∧
      s.upstream.stream ≠ [] ∧ upstream.stream = [] ∧ upstream.closed = false ∧
      s.downstream.stream = [] ∧
      holding s.client d = some (.recvFrame request attempt, .calling request) ∧
      next = { s with
        handler := (s.handler.record (.accepted request)).goto
          (.serving keys (.touch request))
        upstream
        downstream := s.downstream.write [] false } := by
  unfold Channel.serverReceive at stepped
  split at stepped
  case h_2 => cases stepped
  case h_1 current here =>
    have within := follows.within
    rw [here] at within
    obtain rfl : current = keys := within
    obtain ⟨⟨result, upstream⟩, received, stepped⟩ :=
      Option.bind_eq_some_iff.mp stepped
    obtain ⟨middle, handled, same⟩ := Option.bind_eq_some_iff.mp stepped
    cases same
    have loop : phaseOf s.handler.point = .loop := by
      rw [here]
      rfl
    have spoken : s.upstream.stream ≠ [] := by
      intro silent
      rw [Pipe.recvFrame_of_open silent follows.opened] at received
      cases received
    cases follows.stage with
    | resting _ sent silent quiet => exact absurd sent spoken
    | answered after sent built answers waits => exact absurd sent spoken
    | working hand sent silent waits => exact absurd sent spoken
    | responding hand sent silent waits => exact absurd sent spoken
    | ended gone silent => cases loop.symm.trans gone
    | @asked request attempt urandom _ built silent waits =>
        obtain ⟨rest, read⟩ := recvFrame_of_pipe received
        rw [Pipe.recvFrame_of_stream built rfl] at received
        split at received
        case isFalse => cases received
        case isTrue arrived =>
          cases received
          obtain ⟨limiter, handler, inner, rfl⟩ := handlerDo_eq_some handled
          rw [handlerStep_accept here read] at inner
          cases inner
          refine ⟨request, attempt, { s.upstream with arrived := [] }, here, spoken,
            arrived, follows.opened, silent, waits, ?_⟩
          rw [framesSince_record]
          rfl

theorem Follows.serverReceive (follows : Follows P keys s d) {cuts : List ℕ}
    (stepped : s.serverReceive P cuts = some next) : Follows P keys next d := by
  obtain ⟨request, attempt, upstream, -, -, sent, opened, silent, waits, rfl⟩ :=
    follows.accepts stepped
  have log := forwardedRequests_record s.handler (.accepted request)
  exact
    { exclusive := follows.exclusive
      session := follows.session
      sees := follows.sees
      executed := follows.executed.trans (log.trans (List.append_nil _)).symm
      within := rfl
      opened := opened
      closes := iff_of_false nofun nofun
      stage := by
        rw [Pipe.stream_write, silent]
        exact .working (.inl rfl) sent rfl waits }

theorem handlerStep_sent {limiter after : RateLimiter} {h next : Handler}
    {urandom : GcmNonce}
    (stepped : handlerStep P limiter h (.sent urandom none) = some (after, next)) :
    ∃ keys msgType payload,
      next = h.sendReply P keys msgType payload urandom none ∧
      (h.point = .serving keys .rateError ∧ msgType = .error ∨
        h.point = .serving keys (.respond payload) ∧ msgType = .dataResponse) := by
  cases here : h.point with
  | serving keys point =>
      cases point with
      | rateError =>
          simp only [handlerStep, here, serveStep, Option.some.injEq,
            Prod.mk.injEq] at stepped
          exact ⟨keys, _, _, stepped.2.symm, .inl ⟨rfl, rfl⟩⟩
      | respond response =>
          simp only [handlerStep, here, serveStep, Option.some.injEq,
            Prod.mk.injEq] at stepped
          exact ⟨keys, _, _, stepped.2.symm, .inr ⟨rfl, rfl⟩⟩
      | _ => simp [handlerStep, here, serveStep] at stepped
  | _ => simp [handlerStep, here] at stepped

theorem Follows.serverSend (follows : Follows P keys s d) {urandom : GcmNonce}
    (stepped : s.handlerDo P (.sent urandom none) = some next) :
    Follows P keys next d := by
  obtain ⟨limiter, handler, inner, rfl⟩ := handlerDo_eq_some stepped
  obtain ⟨current, msgType, payload, rfl, replies⟩ := handlerStep_sent inner
  have same : current = keys := by
    have within := follows.within
    rcases replies with ⟨here, -⟩ | ⟨here, -⟩ <;>
      (rw [here] at within; exact within)
  subst same
  -- The thread that waits, and that the reply is for it.
  have waiting : s.upstream.stream = [] ∧ s.downstream.stream = [] ∧
      ∃ request attempt point,
        holding s.client d = some (.recvFrame request attempt, point) ∧
        Answers request msgType payload point := by
    have stage := follows.stage
    rcases replies with ⟨here, kind⟩ | ⟨here, kind⟩
    · rw [here] at stage
      obtain ⟨sent, silent, request, attempt, waits⟩ := stage.of_refusing
      exact ⟨sent, silent, request, attempt, _, waits, rfl, kind⟩
    · rw [here] at stage
      obtain ⟨sent, silent, request, attempt, waits⟩ := stage.of_responding
      exact ⟨sent, silent, request, attempt, _, waits, rfl, kind, rfl⟩
  obtain ⟨sent, silent, request, attempt, point, waits, answers⟩ := waiting
  obtain ⟨log, within, outcome⟩ :=
    sendReply_phase (P := P) s.handler current msgType payload urandom
  exact
    { exclusive := follows.exclusive
      session := follows.session
      sees := follows.sees
      executed := follows.executed.trans log.symm
      within := within
      opened := follows.opened
      closes := decide_eq_true_iff
      stage := by
        rw [Pipe.stream_write, silent, List.nil_append]
        rcases outcome with ⟨ended, frames⟩ | ⟨frame, built, loop, frames⟩
        · exact .ended ended (congrArg List.flatten frames)
        · rw [frames, List.flatten_singleton]
          exact .answered (.inl loop) sent built answers waits }

/-! The network. -/

theorem Follows.deliverUp (follows : Follows P keys s d) {size : ℕ} {upstream : Pipe}
    (delivered : s.upstream.deliver size = some upstream) :
    Follows P keys { s with upstream } d := by
  obtain ⟨stream, closed, -⟩ := Pipe.deliver_eq_some delivered
  exact
    { follows with
      opened := closed.trans follows.opened
      stage := by
        rw [stream]
        exact follows.stage }

theorem Follows.deliverDown (follows : Follows P keys s d) {size : ℕ}
    {downstream : Pipe}
    (delivered : s.downstream.deliver size = some downstream) :
    Follows P keys { s with downstream } d := by
  obtain ⟨stream, closed, -⟩ := Pipe.deliver_eq_some delivered
  exact
    { follows with
      closes := by
        rw [closed]
        exact follows.closes
      stage := by
        rw [stream]
        exact follows.stage }

end

end VpnTunnel.Tunnel
