import VpnTunnel.Foundation.Purge
import VpnTunnel.Tunnel.ChannelTurn

namespace VpnTunnel.Tunnel

open VpnTunnel.Crypto
open VpnTunnel.Foundation
open VpnTunnel.Client
open VpnTunnel.Server

section

variable {P : Primitives} {keys : SessionKeys} {maxRetries : ℕ}
  {s next : Channel} {d : Direct} {client : TunnelThreads} {thread : ℕ}

/-! The proxy's side. -/

theorem clientDo_eq_some {event : MethodEvent}
    (stepped : s.clientDo P maxRetries thread event = some next) :
    ∃ deed client, methodProgram P maxRetries (s.client.points thread)
        s.client.shared event = some deed ∧
      s.client.perform thread deed = some client ∧ next = { s with client } ∧
      (s.client.Exclusive (fun point => point.inside = true) →
        client.Exclusive fun point => point.inside = true) := by
  obtain ⟨client, inner, rfl⟩ := Option.map_eq_some_iff.mp stepped
  obtain ⟨deed, does, performed⟩ := Monitor.step_cases inner
  exact ⟨deed, client, does, performed, rfl, fun exclusive =>
    exclusive.step (methodProgram_lawful (P := P)) inner⟩

theorem methodProgram_call {point : MethodPoint} {t : Tunnel} {request : Bytes}
    {deed : Deed MethodPoint Tunnel}
    (does : methodProgram P maxRetries point t (.sendRequest request) = some deed) :
    (∃ outcome, point = .done outcome) ∧
      deed = .move (nextAttempt maxRetries request 1 none) := by
  cases point with
  | done outcome =>
      cases does
      exact ⟨⟨outcome, rfl⟩, rfl⟩
  | entered method => cases method <;> cases does
  | _ => cases does

theorem Follows.call (follows : Follows P keys s d) (retries : 0 < maxRetries)
    {request : Bytes}
    (stepped : s.clientDo P maxRetries thread (.sendRequest request) = some next) :
    ∃ also, directStep d (.call thread request) = some also ∧
      Follows P keys next also := by
  obtain ⟨deed, client, does, performed, rfl, exclusive⟩ := clientDo_eq_some stepped
  obtain ⟨⟨outcome, here⟩, rfl⟩ := methodProgram_call does
  have first : nextAttempt maxRetries request 1 none =
      .waiting (.doRequest request 1) := if_pos retries
  rw [first] at performed
  cases performed
  have sees := follows.sees thread
  rw [here] at sees
  cases idle : d.points thread with
  | idle last =>
      have free : s.client.lock ≠ some thread := by
        intro lock
        have inside := (follows.exclusive thread).mpr lock
        rw [here] at inside
        cases inside
      refine ⟨d.goto thread (.calling request), ?_, ?_⟩
      · rw [directStep, idle]
      · exact
          { follows with
            exclusive := exclusive follows.exclusive
            sees := sees_update follows.sees thread rfl
            stage := by
              rw [holding_aside free]
              exact follows.stage }
  | _ =>
      rw [idle] at sees
      cases outcome <;> exact sees.elim

/-- While no reply is awaited, the lock may change hands. -/
theorem TurnStage.hand_over {phase : Phase} {up down : Bytes}
    {holder other : Option (MethodPoint × DirectPoint)}
    (stage : TurnStage P keys phase up down holder)
    (quiet : ∀ point ∈ holder, isReceiving point.1 = false)
    (still : ∀ point ∈ other, isReceiving point.1 = false) :
    TurnStage P keys phase up down other := by
  cases stage with
  | resting loop sent silent _ => exact .resting loop sent silent still
  | ended gone silent => exact .ended gone silent
  | asked loop built silent waits => cases quiet _ waits
  | working hand sent silent waits => cases quiet _ waits
  | responding hand sent silent waits => cases quiet _ waits
  | answered after sent built answers waits => cases quiet _ waits

theorem quiet_holding {point : MethodPoint} (lock : client.lock = some thread)
    (here : client.points thread = point) (quiet : isReceiving point = false) :
    ∀ point ∈ holding client d, isReceiving point.1 = false := by
  intro both member
  rw [holding_of_lock lock, here] at member
  cases member
  exact quiet

theorem quiet_free (lock : client.lock = none) :
    ∀ point ∈ holding client d, isReceiving point.1 = false := by
  intro both member
  rw [holding, lock] at member
  cases member

theorem Follows.up (follows : Follows P keys s d) :
    ¬ (s.client.shared.attributes.connected = false ∨
      s.client.shared.attributes.sock = none) := by
  rw [follows.session]
  simp [establishedTunnel]

theorem Follows.enter (follows : Follows P keys s d)
    (stepped : s.next P maxRetries thread = some next) : Follows P keys next d := by
  unfold Channel.next at stepped
  split at stepped
  case h_1 request attempt here =>
    obtain ⟨deed, client, does, performed, rfl, exclusive⟩ :=
      clientDo_eq_some stepped
    rw [here] at does
    cases does
    dsimp only [Monitor.perform] at performed
    split at performed
    case isFalse => cases performed
    case isTrue free =>
      cases performed
      have sees := follows.sees thread
      rw [here] at sees
      have own : Sees (.entered (.doRequest request attempt)) (d.points thread) := by
        rw [sees.calling rfl]
        rfl
      have sees := sees_update follows.sees thread own
      rw [goto_same] at sees
      exact
        { follows with
          exclusive := exclusive follows.exclusive
          sees := sees
          stage := follows.stage.hand_over (quiet_free free)
            (quiet_holding rfl (Monitor.goto_self thread _) rfl) }
  case h_2 request attempt here =>
    obtain ⟨deed, client, does, performed, rfl, exclusive⟩ :=
      clientDo_eq_some stepped
    have lock : s.client.lock = some thread :=
      (follows.exclusive thread).mp (by rw [here]; rfl)
    rw [here, methodProgram, if_neg follows.up] at does
    cases does
    cases performed
    have sees := follows.sees thread
    rw [here] at sees
    have own : Sees (.sendFrame request attempt) (d.points thread) := by
      rw [sees.calling rfl]
      rfl
    have sees := sees_update follows.sees thread own
    rw [goto_same] at sees
    exact
      { follows with
        exclusive := exclusive follows.exclusive
        sees := sees
        stage := follows.stage.hand_over (quiet_holding lock here rfl)
          (quiet_holding lock (Monitor.goto_self thread _) rfl) }
  case h_3 => cases stepped

theorem sendRequest_of_session {t : Tunnel}
    (session : t.attributes = (establishedTunnel keys).attributes)
    (request : Bytes) (urandom : GcmNonce) :
    (∃ frame, buildFrame P .dataRequest keys.sessionId request
          (some keys.encKey) (some keys.macKey) urandom = .ok frame ∧
        requestBytes P t.attributes request urandom = some frame ∧
        t.sendRequest P request urandom none =
          (t.record 0 (.wrote request frame), none)) ∨
      ∃ error, requestBytes P t.attributes request urandom = none ∧
        t.sendRequest P request urandom none = (t, some error) := by
  unfold requestBytes Tunnel.sendRequest
  rw [session]
  dsimp only [establishedTunnel]
  cases built : buildFrame P .dataRequest keys.sessionId request
      (some keys.encKey) (some keys.macKey) urandom with
  | ok frame => exact .inl ⟨frame, rfl, rfl, rfl⟩
  | error error => exact .inr ⟨error, rfl, rfl⟩

theorem Follows.send (follows : Follows P keys s d) {urandom : GcmNonce}
    (stepped : s.send P maxRetries thread urandom = some next) :
    ∃ also, d.turn (directEvent P s (.send thread urandom)) = some also ∧
      Follows P keys next also := by
  unfold Channel.send at stepped
  split at stepped
  case h_2 => cases stepped
  case h_1 request attempt here =>
    obtain ⟨middle, done, rfl⟩ := Option.map_eq_some_iff.mp stepped
    obtain ⟨deed, client, does, performed, rfl, exclusive⟩ := clientDo_eq_some done
    have lock : s.client.lock = some thread :=
      (follows.exclusive thread).mp (by rw [here]; rfl)
    have sees := follows.sees thread
    rw [here] at sees
    have calling := sees.calling rfl
    rw [here, methodProgram] at does
    rw [directEvent, here]
    dsimp only
    rcases sendRequest_of_session (P := P) follows.session request urandom with
      ⟨frame, built, bytes, sent⟩ | ⟨error, bytes, sent⟩
    · rw [sent] at does
      cases does
      cases performed
      rw [bytes, if_neg (by simp)]
      have own : Sees (.recvFrame request attempt) (d.points thread) := by
        rw [calling]
        rfl
      have sees := sees_update follows.sees thread own
      rw [goto_same] at sees
      refine ⟨d, rfl, ?_⟩
      exact
        { follows with
          exclusive := exclusive follows.exclusive
          session := follows.session
          sees := sees
          opened := rfl
          stage := by
            have waits := holding_moved (d := d) lock (.recvFrame request attempt)
              (s.client.shared.record 0 (.wrote request frame))
            rw [calling] at waits
            rw [Pipe.stream_write]
            cases follows.stage with
            | resting loop up silent _ =>
                rw [up]
                exact .asked loop built silent waits
            | ended gone silent => exact .ended gone silent
            | asked _ _ _ waits => cases (quiet_holding lock here rfl) _ waits
            | working _ _ _ waits => cases (quiet_holding lock here rfl) _ waits
            | responding _ _ _ waits => cases (quiet_holding lock here rfl) _ waits
            | answered _ _ _ _ waits => cases (quiet_holding lock here rfl) _ waits }
    · rw [sent] at does
      cases does
      cases performed
      rw [bytes, if_pos rfl]
      have own : Sees (.waiting (.reconnect request attempt error))
          (.failed request) := rfl
      refine ⟨d.goto thread (.failed request), ?_, ?_⟩
      · rw [Direct.turn, directStep, calling]
      · exact
          { follows with
            exclusive := exclusive follows.exclusive
            session := follows.session
            sees := sees_update follows.sees thread own
            opened := rfl
            stage := by
              rw [Pipe.stream_write, Option.getD_none, List.append_nil]
              exact follows.stage.hand_over (quiet_holding lock here rfl)
                (quiet_free rfl) }

theorem receiveReply_of_session {t : Tunnel}
    (session : t.attributes = (establishedTunnel keys).attributes) (stream : Sock) :
    t.receiveReply P stream =
      match recvFrame P (some keys.encKey) (some keys.macKey) stream with
      | .error error _ => .error error
      | .ok (msgType, _, response) _ => readReply msgType response := by
  unfold Tunnel.receiveReply
  rw [session]
  rfl

theorem Answers.read {request payload : Bytes} {msgType : MessageType}
    {point : DirectPoint} (answers : Answers request msgType payload point) :
    (point = .returning request payload ∧
        readReply msgType payload = .ok payload) ∨
      point = .calling request ∧ ∃ error, readReply msgType payload = .error error := by
  cases point with
  | returning asked response =>
      obtain ⟨rfl, rfl, rfl⟩ := answers
      exact .inl ⟨rfl, rfl⟩
  | calling asked =>
      obtain ⟨rfl, rfl⟩ := answers
      exact .inr ⟨rfl, _, rfl⟩
  | _ => exact answers.elim

theorem Follows.leave (follows : Follows P keys s d) {point : MethodPoint}
    {also : DirectPoint} {downstream : Pipe}
    (exclusive : ({ s.client.goto thread point with
      lock := none, shared := s.client.shared } : TunnelThreads).Exclusive
        fun point => point.inside = true)
    (own : Sees point also) (closed : downstream.closed = s.downstream.closed)
    (silent : downstream.stream = [])
    (phase : phaseOf s.handler.point = .loop ∧ s.upstream.stream = [] ∨
      phaseOf s.handler.point = .ended) :
    Follows P keys
      { s with
        client := { s.client.goto thread point with
          lock := none, shared := s.client.shared }
        downstream }
      (d.goto thread also) where
  exclusive := exclusive
  session := follows.session
  sees := sees_update follows.sees thread own
  executed := follows.executed
  within := follows.within
  opened := follows.opened
  closes := by
    rw [closed]
    exact follows.closes
  stage := by
    rcases phase with ⟨loop, sent⟩ | ended
    · exact .resting loop sent silent (quiet_free rfl)
    · exact .ended ended silent

/-- What a thread that waits can find. -/
inductive Arrival (P : Primitives) (keys : SessionKeys) (s : Channel) (cuts : List ℕ)
    (request : Bytes) (also : DirectPoint) (downstream : Pipe) : Prop
  | reply {msgType : MessageType} {sessionId payload : Bytes} {rest : Sock}
      (read : recvFrame P (some keys.encKey) (some keys.macKey)
        (s.downstream.sock cuts) = .ok (msgType, sessionId, payload) rest)
      (answers : Answers request msgType payload also)
      (phase : phaseOf s.handler.point = .loop ∧ s.upstream.stream = [] ∨
        phaseOf s.handler.point = .ended)
  | closed {error : PyError} {rest : Sock}
      (read : recvFrame P (some keys.encKey) (some keys.macKey)
        (s.downstream.sock cuts) = .error error rest)
      (ended : phaseOf s.handler.point = .ended)

theorem Follows.arrival (follows : Follows P keys s d) {request : Bytes}
    {attempt : ℕ} {cuts : List ℕ} {downstream : Pipe}
    {result : Except PyError (MessageType × Bytes × Bytes)}
    (lock : s.client.lock = some thread)
    (here : s.client.points thread = .recvFrame request attempt)
    (received : s.downstream.recvFrame P (some keys.encKey) (some keys.macKey)
      cuts = some (result, downstream)) :
    Arrival P keys s cuts request (d.points thread) downstream ∧
      downstream.closed = s.downstream.closed ∧ downstream.stream = [] := by
  have held := holding_of_lock (d := d) lock
  rw [here] at held
  obtain ⟨rest, read⟩ := recvFrame_of_pipe received
  have awaits (silent : s.downstream.stream = [])
      (phase : phaseOf s.handler.point ≠ .ended) : False := by
    have opened : s.downstream.closed = false := by
      refine Bool.eq_false_iff.mpr fun closed => phase ?_
      rw [follows.closes.mp closed]
      rfl
    rw [Pipe.recvFrame_of_open silent opened] at received
    cases received
  cases follows.stage with
  | resting loop sent silent quiet => cases quiet _ held
  | asked loop built silent waits =>
      exact (awaits silent (by rw [loop]; nofun)).elim
  | working hand sent silent waits =>
      refine (awaits silent ?_).elim
      rcases hand with hand | hand <;> (rw [hand]; nofun)
  | responding hand sent silent waits =>
      exact (awaits silent (by rw [hand]; nofun)).elim
  | @answered asked payload _ msgType _ point after sent built answers waits =>
      cases held.symm.trans waits
      rw [Pipe.recvFrame_of_stream built rfl] at received
      split at received
      case isFalse => cases received
      case isTrue arrived =>
        cases received
        refine ⟨.reply read answers ?_, rfl, arrived⟩
        exact after.imp (fun loop => ⟨loop, sent⟩) id
  | ended gone silent =>
      cases closed : s.downstream.closed with
      | false =>
          rw [Pipe.recvFrame_of_open silent closed] at received
          cases received
      | true =>
          obtain ⟨message, failed⟩ := Pipe.recvFrame_of_closed (P := P)
            silent closed cuts
          rw [failed] at received
          cases received
          exact ⟨.closed read gone, closed, silent⟩

theorem Follows.receive (follows : Follows P keys s d) {cuts : List ℕ}
    (stepped : s.receive P maxRetries thread cuts = some next) :
    ∃ also, d.turn (directEvent P s (.receive thread cuts)) = some also ∧
      Follows P keys next also := by
  unfold Channel.receive at stepped
  split at stepped
  case h_2 => cases stepped
  case h_1 request attempt here =>
    obtain ⟨⟨result, downstream⟩, received, stepped⟩ :=
      Option.bind_eq_some_iff.mp stepped
    obtain ⟨middle, done, same⟩ := Option.bind_eq_some_iff.mp stepped
    cases same
    obtain ⟨deed, client, does, performed, rfl, exclusive⟩ := clientDo_eq_some done
    rw [follows.session] at received
    have lock : s.client.lock = some thread :=
      (follows.exclusive thread).mp (by rw [here]; rfl)
    obtain ⟨arrival, closed, silent⟩ := follows.arrival lock here received
    rw [here, methodProgram, receiveReply_of_session follows.session] at does
    rw [directEvent, receiveReply_of_session follows.session]
    cases arrival with
    | reply read answers phase =>
        rw [read] at does ⊢
        dsimp only at does ⊢
        rcases answers.read with ⟨returning, response⟩ | ⟨calling, error, refused⟩
        · rw [response] at does ⊢
          cases does
          cases performed
          refine ⟨d.goto thread (.idle _), ?_,
            follows.leave (exclusive follows.exclusive) rfl closed silent phase⟩
          rw [Direct.turn, directStep, returning]
        · rw [refused] at does ⊢
          cases does
          cases performed
          refine ⟨d.goto thread (.failed request), ?_,
            follows.leave (exclusive follows.exclusive) rfl closed silent phase⟩
          rw [Direct.turn, directStep, calling]
    | closed read ended =>
        rw [read] at does ⊢
        cases does
        cases performed
        refine ⟨d.goto thread (.failed request), ?_,
          follows.leave (exclusive follows.exclusive) rfl closed silent (.inr ended)⟩
        have sees := follows.sees thread
        rw [here] at sees
        cases point : d.points thread with
        | calling asked =>
            rw [point] at sees
            cases (sees : asked = request)
            rw [Direct.turn, directStep, point]
        | returning asked response =>
            rw [point] at sees
            cases (sees : asked = request)
            rw [Direct.turn, directStep, point]
        | _ =>
            rw [point] at sees
            exact sees.elim

/-! All steps, and whole runs. -/

theorem Follows.step (follows : Follows P keys s d) (retries : 0 < maxRetries)
    {event : ChannelEvent} (timely : Timely s event)
    (stepped : channelStep P maxRetries s event = some next) :
    ∃ also, d.turn (directEvent P s event) = some also ∧
      Follows P keys next also := by
  cases event with
  | call thread request => exact follows.call retries stepped
  | next thread => exact ⟨d, rfl, follows.enter stepped⟩
  | send thread urandom => exact follows.send stepped
  | receive thread cuts => exact follows.receive stepped
  | timeout thread cuts => exact timely.elim
  | server event =>
      rw [channelStep] at stepped
      split at stepped
      case isTrue => cases stepped
      case isFalse offSocket =>
        exact follows.server (Bool.eq_false_iff.mpr offSocket) stepped
  | serverReceive cuts => exact ⟨d, rfl, follows.serverReceive stepped⟩
  | serverSend urandom => exact ⟨d, rfl, follows.serverSend stepped⟩
  | others limiter =>
      cases stepped
      exact ⟨d, rfl, { follows with }⟩
  | upstream size =>
      obtain ⟨upstream, delivered, rfl⟩ := Option.map_eq_some_iff.mp stepped
      exact ⟨d, rfl, follows.deliverUp delivered⟩
  | downstream size =>
      obtain ⟨downstream, delivered, rfl⟩ := Option.map_eq_some_iff.mp stepped
      exact ⟨d, rfl, follows.deliverDown delivered⟩

theorem follows_start (P : Primitives) (keys : SessionKeys) (limiter : RateLimiter)
    (ip : Ip) : Follows P keys (.start keys limiter ip) .start where
  exclusive := fun _ => iff_of_false nofun nofun
  session := rfl
  sees := fun _ => rfl
  executed := rfl
  within := rfl
  opened := rfl
  closes := iff_of_false nofun nofun
  stage := .resting rfl rfl rfl nofun

theorem Follows.mirrored (retries : 0 < maxRetries) {event : ChannelEvent}
    {kept : DirectEvent} (follows : Follows P keys s d) (timely : Timely s event)
    (stepped : channelStep P maxRetries s event = some next)
    (keeps : directEvent P s event = some kept) :
    ∃ also, directStep d kept = some also ∧ Follows P keys next also := by
  obtain ⟨also, turned, after⟩ := follows.step retries timely stepped
  rw [keeps] at turned
  exact ⟨also, turned, after⟩

theorem Follows.unseen (retries : 0 < maxRetries) {event : ChannelEvent}
    (follows : Follows P keys s d)
    (stepped : channelStep P maxRetries s event = some next)
    (drops : directEvent P s event = none) : Follows P keys next d := by
  have timely : Timely s event := by
    cases event with
    | timeout thread cuts => cases drops
    | _ => exact trivial
  obtain ⟨also, turned, after⟩ := follows.step retries timely stepped
  rw [drops] at turned
  cases turned
  exact after

end

/-- Over a connection that is up, and as long as no `recv` of the proxy times out,
the tunnel is a call of `forward_request`: take from a run of the session, however
its threads and the bytes on their way are interleaved, what its callers do not see,
and a run of threads is left that call `forward_request` themselves, one call at a
time, each for its own request. -/
theorem tunnel_calls_direct (P : Primitives) (maxRetries : ℕ)
    (retries : 0 < maxRetries) (keys : SessionKeys) (limiter : RateLimiter) (ip : Ip)
    (events : List ChannelEvent) (s : Channel)
    (timely : Along (channelStep P maxRetries) Timely (.start keys limiter ip) events)
    (reached : run (channelStep P maxRetries) (.start keys limiter ip) events =
      some s) :
    ∃ direct, run directStep .start
        (purge (channelStep P maxRetries) (directEvent P)
          (.start keys limiter ip) events) = some direct ∧
      (∀ thread, Sees (s.client.points thread) (direct.points thread)) ∧
      direct.executed.map Prod.fst = forwardedRequests s.handler.log := by
  obtain ⟨direct, ran, follows⟩ := run_purge (Follows P keys)
    (fun _ _ _ _ _ follows timely => follows.mirrored retries timely)
    (fun _ _ _ _ follows => follows.unseen retries) timely reached
    (follows_start P keys limiter ip)
  exact ⟨direct, ran, follows.sees, follows.executed⟩

/-- Without that: the first thread gives up on its reply, and before it reconnects the
second one sends its request and reads that reply. -/
example :
    (run (channelStep .transparent 3) (.start sampleKeys sampleLimiter "10.0.0.1")
      [.call 0 [1], .call 1 [2], .next 0, .next 0, .send 0 zeroNonce, .upstream 500,
        .timeout 0 [], .next 1, .next 1, .send 1 zeroNonce, .server (.checkIdle 0),
        .serverReceive [], .server (.touched 0), .server (.foundBucket 0),
        .server (.consumed 0), .server (.forwarded (.ok [3])), .serverSend zeroNonce,
        .downstream 500, .receive 1 []]).map
      (fun s => (s.client.points 1, forwardedRequests s.handler.log)) =
    some (.done (.returned (some [3])), [[1]]) := by
  decide +kernel

/-- Two threads call, and the first one's request is answered. -/
def sampleTurns : List ChannelEvent :=
  [.call 0 [1], .call 1 [2], .next 0, .next 0, .send 0 zeroNonce, .upstream 500,
    .server (.checkIdle 0), .serverReceive [], .server (.touched 0),
    .server (.foundBucket 0), .server (.consumed 0), .server (.forwarded (.ok [3])),
    .serverSend zeroNonce, .downstream 500, .receive 0 []]

theorem tunnel_calls_direct_first :
    ∃ direct, run directStep .start
        (purge (channelStep .transparent 3) (directEvent .transparent)
          (.start sampleKeys sampleLimiter "10.0.0.1") sampleTurns) = some direct ∧
      direct.points 0 = .idle (some [3]) ∧ direct.points 1 = .calling [2] ∧
      direct.executed.map Prod.fst = [[1]] := by
  have ran : (run (channelStep .transparent 3)
      (.start sampleKeys sampleLimiter "10.0.0.1") sampleTurns).map
        (fun s => (s.client.points 0, s.client.points 1,
          forwardedRequests s.handler.log)) =
      some (.done (.returned (some [3])), .waiting (.doRequest [2] 1), [[1]]) := by
    decide +kernel
  have timely : Along (channelStep .transparent 3) Timely
      (.start sampleKeys sampleLimiter "10.0.0.1") sampleTurns := by
    decide +kernel
  obtain ⟨s, reached, view⟩ := Option.map_eq_some_iff.mp ran
  obtain ⟨first, rest⟩ := Prod.mk.inj view
  obtain ⟨second, log⟩ := Prod.mk.inj rest
  obtain ⟨direct, alsoRan, sees, executed⟩ := tunnel_calls_direct .transparent 3
    (by decide) sampleKeys sampleLimiter "10.0.0.1" sampleTurns s timely reached
  have served := sees 0
  have waits := sees 1
  rw [first] at served
  rw [second] at waits
  refine ⟨direct, alsoRan, ?_, waits.calling rfl, executed.trans log⟩
  cases idle : direct.points 0 with
  | idle last =>
      rw [idle] at served
      exact congrArg DirectPoint.idle served
  | _ =>
      rw [idle] at served
      exact served.elim

end VpnTunnel.Tunnel
