import VpnTunnel.Auth.BothOrNeither
import VpnTunnel.Client.SessionBinding
import VpnTunnel.Tunnel.Session
import VpnTunnel.Tunnel.Traffic

namespace VpnTunnel.Tunnel

open VpnTunnel.Crypto
open VpnTunnel.Client
open VpnTunnel.Server
open VpnTunnel.Auth hiding ServerEvent serverStep
open VpnTunnel.Foundation

/-! What is left of a state when every payload keeps its length alone.  Outcomes of
calls, the exceptions that calls remember and all logs go as well. -/

def hideMethod : Method → Method
  | .connect => .connect
  | .close => .close
  | .doRequest request attempt => .doRequest (hide request) attempt
  | .reconnect request attempt _ => .reconnect (hide request) attempt .osError

def hidePoint : MethodPoint → MethodPoint
  | .done _ => .done (.returned none)
  | .waiting method => .waiting (hideMethod method)
  | .entered method => .entered (hideMethod method)
  | .closeSock method => .closeSock (hideMethod method)
  | .clearSock method => .clearSock (hideMethod method)
  | .clearConnected method => .clearConnected (hideMethod method)
  | .openSock method => .openSock (hideMethod method)
  | .tcpConnect method sock => .tcpConnect (hideMethod method) sock
  | .handshake method sock => .handshake (hideMethod method) sock
  | .setSock method sock keys => .setSock (hideMethod method) sock keys
  | .setSessionId method keys => .setSessionId (hideMethod method) keys
  | .setEncKey method keys => .setEncKey (hideMethod method) keys
  | .setMacKey method keys => .setMacKey (hideMethod method) keys
  | .setConnected method => .setConnected (hideMethod method)
  | .sendFrame request attempt => .sendFrame (hide request) attempt
  | .recvFrame request attempt => .recvFrame (hide request) attempt
  | .backoff request attempt _ => .backoff (hide request) attempt .osError

def hideTunnel (t : Tunnel) : Tunnel :=
  { t with sockets := t.sockets.map fun _ => [] }

def hideMethodEvent : MethodEvent → MethodEvent
  | .sendRequest request => .sendRequest (hide request)
  | event => event

abbrev hideDeed : Deed MethodPoint Tunnel → Deed MethodPoint Tunnel :=
  Deed.map hidePoint hideTunnel

abbrev hideThreads : TunnelThreads → TunnelThreads :=
  Monitor.map hidePoint hideTunnel

@[simp] theorem hideMethod_hideMethod (method : Method) :
    hideMethod (hideMethod method) = hideMethod method := by
  cases method <;> simp [hideMethod]

@[simp] theorem hidePoint_hidePoint (point : MethodPoint) :
    hidePoint (hidePoint point) = hidePoint point := by
  cases point <;> simp [hidePoint]

@[simp] theorem hideTunnel_hideTunnel (t : Tunnel) :
    hideTunnel (hideTunnel t) = hideTunnel t := by
  simp [hideTunnel]

@[simp] theorem hideTunnel_record (t : Tunnel) (sock : ℕ)
    (action : SocketAction) : hideTunnel (t.record sock action) = hideTunnel t := by
  have same : (t.sockets.modify sock (· ++ [action])).map
      (fun _ => ([] : List SocketAction)) = t.sockets.map fun _ => [] := by
    rw [List.map_const', List.map_const', List.length_modify]
  rw [hideTunnel, hideTunnel, ← same]
  rfl

@[simp] theorem hideTunnel_closeSock (t : Tunnel) :
    hideTunnel t.closeSock = hideTunnel t := by
  unfold Tunnel.closeSock
  split
  · rfl
  · exact hideTunnel_record t _ .closed

@[simp] theorem attributes_hideTunnel (t : Tunnel) :
    (hideTunnel t).attributes = t.attributes := rfl

theorem hideTunnel_opened (t : Tunnel) :
    hideTunnel { hideTunnel t with sockets := (hideTunnel t).sockets ++ [[]] } =
      hideTunnel { t with sockets := t.sockets ++ [[]] } := by
  simp [hideTunnel]

@[simp] theorem hideTunnel_assign (t : Tunnel)
    (change : Attributes → Attributes) :
    hideTunnel ((hideTunnel t).assign change) = hideTunnel (t.assign change) := by
  simp [hideTunnel, Tunnel.assign]

theorem hidePoint_nextAttempt (maxRetries : ℕ) (request : Bytes) (attempt : ℕ)
    (lastErr other : Option PyError) :
    hidePoint (nextAttempt maxRetries (hide request) attempt other) =
      hidePoint (nextAttempt maxRetries request attempt lastErr) := by
  unfold nextAttempt
  split <;> simp [hidePoint, hideMethod]

/-- Away from the framing layer a payload is only carried. -/
theorem methodProgram_hide (P : Primitives) (maxRetries : ℕ)
    (point : MethodPoint) (t : Tunnel) (event : MethodEvent)
    (outside : framingPoint point = false) :
    (methodProgram P maxRetries (hidePoint point) (hideTunnel t)
        (hideMethodEvent event)).map hideDeed =
      (methodProgram P maxRetries point t event).map hideDeed := by
  cases point with
  | sendFrame request attempt | recvFrame request attempt => cases outside
  | done outcome =>
      cases event with
      | sendRequest request =>
          exact congrArg (fun point => some (Deed.move point))
            (hidePoint_nextAttempt maxRetries request 1 none none)
      | _ => rfl
  | backoff request attempt lastErr =>
      cases event with
      | next =>
          exact congrArg (fun point => some (Deed.move point))
            (hidePoint_nextAttempt maxRetries request (attempt + 1) lastErr _)
      | _ => rfl
  | entered method =>
      cases event with
      | next =>
          cases method with
          | doRequest request attempt =>
              by_cases apart : t.attributes.connected = false ∨
                  t.attributes.sock = none <;>
                simp [methodProgram, hidePoint, hideMethod, hideMethodEvent, Deed.map,
                  apart]
          | _ => simp [methodProgram, hidePoint, hideMethod, hideMethodEvent, Deed.map]
      | _ => cases method <;> rfl
  | clearConnected method | setConnected method =>
      cases event with
      | next =>
          cases method <;>
            simp [methodProgram, hidePoint, hideMethod, hideMethodEvent, Deed.map,
              Method.afterClose, Method.afterConnect]
      | _ => rfl
  | openSock method | tcpConnect method sock | handshake method sock =>
      cases event with
      | failed error =>
          cases method <;>
            simp [methodProgram, hidePoint, hideMethod, hideMethodEvent, Deed.map,
              Method.afterException]
      | next =>
          have length : (hideTunnel t).sockets.length = t.sockets.length :=
            List.length_map _
          simp [methodProgram, hidePoint, hideMethodEvent, Deed.map, length,
            ← hideTunnel_opened t]
      | _ => simp [methodProgram, hidePoint, hideMethodEvent, Deed.map]
  | _ =>
      cases event <;> simp [methodProgram, hidePoint, hideMethodEvent, Deed.map]

section

variable {σ κ : Type} {O : Oracles σ} {blind : σ → σ}

/-- One statement, seen in the same way. -/
def hideClientTurn (blind : σ → σ) (turn : ClientTurn σ) : ClientTurn σ :=
  { turn with deed := hideDeed turn.deed, memory := blind turn.memory }

section

variable (hides : O.LengthOnly blind) (memory : σ) {self : Attributes}
  {key : Bytes} (armed : self.encKey = some key)

include hides armed

theorem requestFrame_hide (request : Bytes) (urandom : GcmNonce) :
    requestFrame O (blind memory) self (hide request) urandom =
      (requestFrame O memory self request urandom).map fun sent =>
        (sent.1, sent.2.1, blind sent.2.2) := by
  unfold requestFrame
  rw [armed]
  cases self.sessionId with
  | none => rfl
  | some sessionId =>
      simp only [hides.buildFrame_hide]
      cases O.buildFrame memory .dataRequest sessionId request (some key)
          self.macKey urandom with
      | error error => rfl
      | ok frame => cases self.sock <;> rfl

theorem requestReply_hide (stream : Sock) :
    (∃ error other, requestReply O memory self stream = .error error ∧
      requestReply O (blind memory) self stream = .error other) ∨
    ∃ response, requestReply O memory self stream = .ok response ∧
      requestReply O (blind memory) self stream = .ok (hide response) := by
  unfold requestReply
  rw [armed]
  cases self.sock with
  | none => exact .inl ⟨_, _, rfl, rfl⟩
  | some sock =>
      rcases hides.recvFrame_hide memory key self.macKey stream with
        ⟨error, after, one, two⟩ | ⟨msgType, sessionId, payload, after, one, two⟩
      · rw [one, two]
        exact .inl ⟨error, error, rfl, rfl⟩
      · rw [one, two]
        cases msgType with
        | dataResponse => exact .inr ⟨payload, rfl, rfl⟩
        | _ => exact .inl ⟨_, _, rfl, rfl⟩

end

variable (hides : O.LengthOnly blind) (memory : σ) {t : Tunnel} {key : Bytes}

include hides

theorem sendTurn_hide (armed : t.attributes.encKey = some key) (request : Bytes)
    (attempt : ℕ) (urandom : GcmNonce) (fault : Option PyError) (reach : ℕ) :
    hideClientTurn blind
        (sendTurn O (blind memory) (hideTunnel t) (hide request) attempt urandom
          fault reach) =
      hideClientTurn blind
        (sendTurn O memory t request attempt urandom fault reach) := by
  unfold sendTurn
  rw [attributes_hideTunnel, requestFrame_hide hides memory armed]
  cases requestFrame O memory t.attributes request urandom with
  | error error =>
      simp [Except.map, hideClientTurn, Deed.map, hidePoint, hideMethod,
        hides.blind_blind]
  | ok sent =>
      cases fault <;>
        simp [Except.map, hideClientTurn, Deed.map, hidePoint, hideMethod,
          hides.blind_blind]

theorem receiveTurn_hide (armed : t.attributes.encKey = some key)
    (request : Bytes) (attempt : ℕ) (stream : Sock) :
    hideClientTurn blind
        (receiveTurn O (blind memory) (hideTunnel t) (hide request) attempt
          stream) =
      hideClientTurn blind (receiveTurn O memory t request attempt stream) := by
  unfold receiveTurn
  rw [attributes_hideTunnel]
  rcases requestReply_hide hides memory armed stream with
    ⟨error, other, one, two⟩ | ⟨response, one, two⟩
  · rw [one, two]
    simp [hideClientTurn, Deed.map, hidePoint, hideMethod, hides.blind_blind]
  · rw [one, two]
    simp [hideClientTurn, Deed.map, hidePoint, hides.blind_blind]

theorem clientTurn_hide_elsewhere {maxRetries : ℕ} {point : MethodPoint}
    {event : MethodEvent} {reach : ℕ}
    (outside : framingPoint point = false)
    (connected : ∀ method sock, point ≠ .handshake method sock) :
    (clientTurn O (blind memory) maxRetries (hidePoint point) (hideTunnel t)
        (hideMethodEvent event) reach).map (hideClientTurn blind) =
      (clientTurn O memory maxRetries point t event reach).map
        (hideClientTurn blind) := by
  have outside' : framingPoint (hidePoint point) = false := by
    cases point <;> first | rfl | cases outside
  have connected' : ∀ method sock, hidePoint point ≠ .handshake method sock := by
    intro method sock same
    cases point with
    | handshake before sock => exact connected before sock rfl
    | _ => cases same
  have carried := methodProgram_hide .transparent maxRetries point t event outside
  rw [clientTurn_elsewhere O _ outside' connected',
    clientTurn_elsewhere O _ outside connected, Option.map_map, Option.map_map]
  have turned := congrArg (Option.map fun deed =>
    ({ deed, memory := blind memory, sent := [] } : ClientTurn σ)) carried
  rw [Option.map_map, Option.map_map] at turned
  have again : hideClientTurn blind ∘ (fun deed =>
      ({ deed, memory := blind memory, sent := [] } : ClientTurn σ)) =
      (fun deed => { deed, memory := blind memory, sent := [] }) ∘ hideDeed := by
    funext deed
    simp [hideClientTurn, hides.blind_blind]
  rw [again]
  exact turned

/-- A statement of `TunnelClient` goes by the lengths, where a key is at hand. -/
theorem clientTurn_hide (maxRetries : ℕ) (point : MethodPoint)
    (armed : framingPoint point = true → t.attributes.encKey ≠ none)
    (event : MethodEvent) (reach : ℕ) :
    (clientTurn O (blind memory) maxRetries (hidePoint point) (hideTunnel t)
        (hideMethodEvent event) reach).map (hideClientTurn blind) =
      (clientTurn O memory maxRetries point t event reach).map
        (hideClientTurn blind) := by
  cases point with
  | sendFrame request attempt =>
      obtain ⟨key, held⟩ := Option.ne_none_iff_exists'.mp (armed rfl)
      cases event with
      | sent urandom fault =>
          exact congrArg some (sendTurn_hide hides memory held request attempt
            urandom fault reach)
      | _ => rfl
  | recvFrame request attempt =>
      obtain ⟨key, held⟩ := Option.ne_none_iff_exists'.mp (armed rfl)
      cases event with
      | received stream =>
          exact congrArg some (receiveTurn_hide hides memory held request attempt
            stream)
      | _ => rfl
  | handshake method sock => rfl
  | _ => exact clientTurn_hide_elsewhere hides memory rfl nofun

end

/-! The server's threads, seen in the same way. -/

def responseData : Except String Bytes → Bytes
  | .ok response => response
  | .error failure => forwardErrorResponse failure

def hideServePoint : ServePoint → ServePoint
  | .idleCheck => .idleCheck
  | .receive => .receive
  | .touch request => .touch (hide request)
  | .findBucket request => .findBucket (hide request)
  | .consume request => .consume (hide request)
  | .rateError => .rateError
  | .forward request => .forward (hide request)
  | .respond response => .respond (hide response)

def hideHandlerPoint : HandlerPoint → HandlerPoint
  | .serving keys point => .serving keys (hideServePoint point)
  | point => point

def hideHandler (h : Handler) : Handler :=
  { h with point := hideHandlerPoint h.point, log := [] }

def hideHandlerEvent : HandlerEvent → HandlerEvent
  | .forwarded outcome => .forwarded (.ok (hide (responseData outcome)))
  | event => event

@[simp] theorem hideServePoint_hideServePoint (point : ServePoint) :
    hideServePoint (hideServePoint point) = hideServePoint point := by
  cases point <;> simp [hideServePoint]

@[simp] theorem hideHandlerPoint_hideHandlerPoint (point : HandlerPoint) :
    hideHandlerPoint (hideHandlerPoint point) = hideHandlerPoint point := by
  cases point <;> simp [hideHandlerPoint]

@[simp] theorem hideHandler_hideHandler (h : Handler) :
    hideHandler (hideHandler h) = hideHandler h := by
  simp [hideHandler]

@[simp] theorem hideHandler_record (h : Handler) (action : HandlerAction) :
    hideHandler (h.record action) = hideHandler h := rfl

theorem hideHandler_goto (h : Handler) (point : HandlerPoint) :
    hideHandler (h.goto point) =
      { ip := h.ip, point := hideHandlerPoint point, log := [] } := rfl

theorem handlerStep_hide (P : Primitives) (limiter : RateLimiter) (h : Handler)
    (event : HandlerEvent) (outside : framingEvent h.point event = false) :
    (handlerStep P limiter (hideHandler h) (hideHandlerEvent event)).map
        (Prod.map id hideHandler) =
      (handlerStep P limiter h event).map (Prod.map id hideHandler) := by
  obtain ⟨ip, point, log⟩ := h
  cases point with
  | serving keys point =>
      cases point with
      | idleCheck =>
          cases event with
          | checkIdle now =>
              change (if limiter.isIdle ip now then _ else _ : Option _).map _ =
                (if limiter.isIdle ip now then _ else _ : Option _).map _
              split <;> rfl
          | _ => rfl
      | consume request =>
          cases event with
          | consumed now =>
              change (if (limiter.consumeFor ip now).1 then _ else _ :
                  Option _).map _ =
                (if (limiter.consumeFor ip now).1 then _ else _ : Option _).map _
              split
              · simp [hideHandler, hideHandlerPoint, hideServePoint, Handler.goto,
                  Handler.record]
              · rfl
          | _ => rfl
      | forward request =>
          cases event with
          | forwarded outcome =>
              cases outcome <;>
                simp [handlerStep, serveStep, hideHandler, hideHandlerEvent,
                  hideHandlerPoint, hideServePoint, Handler.goto, Handler.record,
                  responseData]
          | _ => rfl
      | touch request | findBucket request =>
          cases event <;>
            simp [handlerStep, serveStep, hideHandler, hideHandlerEvent,
              hideHandlerPoint, hideServePoint, Handler.goto,
              Handler.afterException]
      | receive | rateError | respond response =>
          cases event <;> first | rfl | contradiction
  | connectionCap =>
      cases event with
      | tryAdd now =>
          change (if (limiter.tryAddConnection ip now).1 then _ else _ :
              Option _).map _ =
            (if (limiter.tryAddConnection ip now).1 then _ else _ : Option _).map _
          split <;> rfl
      | _ => rfl
  | handshake =>
      cases event with
      | handshaked outcome => cases outcome <;> rfl
      | _ => rfl
  | _ => cases event <;> rfl

theorem handlerAfter_hide (limiter : RateLimiter) (h : Handler)
    (point : ServerPoint UInt8) :
    (Traffic.handlerAfter limiter (hideHandler h) point).map
        (Prod.map id hideHandler) =
      (Traffic.handlerAfter limiter h point).map (Prod.map id hideHandler) := by
  have elsewhere : ∀ outcome, framingEvent h.point (.handshaked outcome) = false := by
    intro outcome
    obtain ⟨ip, point, log⟩ := h
    cases point with
    | serving keys point => cases point <;> rfl
    | _ => rfl
  cases point with
  | returned nonceC nonceS keys =>
      exact handlerStep_hide .transparent limiter h (.handshaked (.ok (sessionOf keys)))
        (elsewhere _)
  | raised error =>
      exact handlerStep_hide .transparent limiter h
        (.handshaked (.error (raisedBy error))) (elsewhere _)
  | _ => exact congrArg (fun h => some (limiter, h)) (hideHandler_hideHandler h)

section

variable {σ κ : Type} {O : Oracles σ} {blind : σ → σ}

def hideServerTurn (blind : σ → σ) (turn : ServerTurn σ) : ServerTurn σ :=
  { turn with
    handler := hideHandler turn.handler
    memory := blind turn.memory }

variable (hides : O.LengthOnly blind) (memory : σ)

include hides

theorem replyTurn_hide {h other : Handler} {payload sent : Bytes}
    (handlers : hideHandler other = hideHandler h)
    (payloads : hide sent = hide payload) (limiter : RateLimiter)
    (keys : SessionKeys) (msgType : MessageType) (urandom : GcmNonce)
    (fault : Option PyError) :
    hideServerTurn blind
        (replyTurn O (blind memory) limiter other keys msgType sent urandom
          fault) =
      hideServerTurn blind
        (replyTurn O memory limiter h keys msgType payload urandom fault) := by
  have ip : (hideHandler other).ip = (hideHandler h).ip := by rw [handlers]
  change other.ip = h.ip at ip
  have built := hides.buildFrame_alike memory msgType payloads keys.sessionId
    keys.encKey (some keys.macKey) urandom
  unfold replyTurn
  cases one : O.buildFrame (blind memory) msgType keys.sessionId sent
      (some keys.encKey) (some keys.macKey) urandom with
  | error error =>
      cases two : O.buildFrame memory msgType keys.sessionId payload
          (some keys.encKey) (some keys.macKey) urandom with
      | error error =>
          simp [hideServerTurn, hideHandler_goto, Handler.record, ip,
            hides.blind_blind]
      | ok frame =>
          rw [one, two] at built
          cases built
  | ok frame =>
      cases two : O.buildFrame memory msgType keys.sessionId payload
          (some keys.encKey) (some keys.macKey) urandom with
      | error error =>
          rw [one, two] at built
          cases built
      | ok shown =>
          rw [one, two] at built
          obtain ⟨bytes, remembered⟩ := Prod.mk.inj (Except.ok.inj built)
          cases fault <;>
            simp [hideServerTurn, hideHandler_goto, Handler.record, ip, remembered,
              show frame.1 = shown.1 from bytes]

theorem receiveRequest_hide (h : Handler) (keys : SessionKeys) (stream : Sock) :
    hideHandler (receiveRequest O (blind memory) (hideHandler h) keys stream) =
      hideHandler (receiveRequest O memory h keys stream) := by
  unfold receiveRequest
  rcases hides.recvFrame_hide memory keys.encKey (some keys.macKey) stream with
    ⟨error, after, one, two⟩ | ⟨msgType, sessionId, payload, after, one, two⟩
  · rw [one, two]
    rfl
  · rw [one, two]
    dsimp only
    split
    · rfl
    · rw [hideHandler_goto, hideHandler_goto]
      simp [Handler.record, hideHandler, hideHandlerPoint, hideServePoint]

theorem serverTurn_hide_elsewhere {limiter : RateLimiter} {h : Handler}
    {event : HandlerEvent} (outside : framingEvent h.point event = false)
    (connected : h.point ≠ .handshake) :
    (serverTurn O (blind memory) limiter (hideHandler h)
        (hideHandlerEvent event)).map (hideServerTurn blind) =
      (serverTurn O memory limiter h event).map (hideServerTurn blind) := by
  have outside' : framingEvent (hideHandler h).point (hideHandlerEvent event) =
      false := by
    obtain ⟨ip, point, log⟩ := h
    cases point with
    | serving keys point =>
        cases point <;> cases event <;> first | rfl | contradiction
    | _ => cases event <;> rfl
  have connected' : (hideHandler h).point ≠ .handshake := by
    obtain ⟨ip, point, log⟩ := h
    cases point with
    | handshake => exact absurd rfl connected
    | _ => exact nofun
  have carried := handlerStep_hide .transparent limiter h event outside
  rw [serverTurn_elsewhere O _ outside' connected',
    serverTurn_elsewhere O _ outside connected, Option.map_map, Option.map_map]
  have turned := congrArg (Option.map fun after : RateLimiter × Handler =>
    ({ limiter := after.1, handler := after.2, memory := blind memory, sent := [] } :
      ServerTurn σ)) carried
  rw [Option.map_map, Option.map_map] at turned
  have again : (hideServerTurn blind ∘ fun after : RateLimiter × Handler =>
      ({ limiter := after.1, handler := after.2, memory := blind memory,
         sent := [] } : ServerTurn σ)) =
      (fun after => { limiter := after.1, handler := after.2,
                      memory := blind memory, sent := [] }) ∘
        Prod.map id hideHandler := by
    funext after
    simp [hideServerTurn, hides.blind_blind]
  exact (congrArg (fun f => Option.map f _) again).trans turned

/-- A step of `handle_client` goes by the lengths. -/
theorem serverTurn_hide (limiter : RateLimiter) (h : Handler)
    (event : HandlerEvent) :
    (serverTurn O (blind memory) limiter (hideHandler h)
        (hideHandlerEvent event)).map (hideServerTurn blind) =
      (serverTurn O memory limiter h event).map (hideServerTurn blind) := by
  obtain ⟨ip, point, log⟩ := h
  cases point with
  | handshake =>
      cases event with
      | raised failure =>
          change some (hideServerTurn blind _) = some (hideServerTurn blind _)
          rw [hideServerTurn, hideServerTurn, hides.blind_blind]
          rfl
      | _ => rfl
  | serving keys point =>
      cases point with
      | receive =>
          cases event with
          | received stream =>
              have received := receiveRequest_hide hides memory
                { ip, point := .serving keys .receive, log } keys stream
              change some (hideServerTurn blind _) = some (hideServerTurn blind _)
              rw [hideServerTurn, hideServerTurn, received, hides.blind_blind]
          | _ => exact serverTurn_hide_elsewhere hides memory rfl nofun
      | rateError =>
          cases event with
          | sent urandom fault =>
              exact congrArg some (replyTurn_hide hides memory
                (hideHandler_hideHandler _) rfl limiter keys .error urandom fault)
          | _ => exact serverTurn_hide_elsewhere hides memory rfl nofun
      | respond response =>
          cases event with
          | sent urandom fault =>
              exact congrArg some (replyTurn_hide hides memory
                (hideHandler_hideHandler _) (hide_hide response) limiter keys
                .dataResponse urandom fault)
          | _ => exact serverTurn_hide_elsewhere hides memory rfl nofun
      | _ => cases event <;> exact serverTurn_hide_elsewhere hides memory rfl nofun
  | _ => exact serverTurn_hide_elsewhere hides memory (by cases event <;> rfl) nofun

end

/-! The whole state.  The handshakes, the limiter and the wire stay as they are. -/

section

variable {σ κ π : Type} {O : Oracles σ} {blind : σ → σ}

def hideHandshakeTurn (blind : σ → σ) (turn : HandshakeTurn σ π κ) :
    HandshakeTurn σ π κ :=
  { turn with memory := blind turn.memory }

def hideWorker (worker : Worker κ) : Worker κ :=
  { worker with handler := hideHandler worker.handler }

def hideTraffic (blind : σ → σ) (s : Traffic σ κ) : Traffic σ κ :=
  { s with
    client := hideThreads s.client
    workers := s.workers.map hideWorker
    memory := blind s.memory }

def hideTrafficEvent : TrafficEvent → TrafficEvent
  | .client thread event reach => .client thread (hideMethodEvent event) reach
  | .server index event reach => .server index (hideHandlerEvent event) reach
  | event => event

theorem perform_hide {client : TunnelThreads} {thread : ℕ}
    {deed other : Deed MethodPoint Tunnel} (same : hideDeed other = hideDeed deed) :
    ((hideThreads client).perform thread other).map hideThreads =
      (client.perform thread deed).map hideThreads := by
  have again : (hideThreads client).map hidePoint hideTunnel =
      client.map hidePoint hideTunnel := by
    simp [Monitor.map]
  change Deed.map hidePoint hideTunnel other = Deed.map hidePoint hideTunnel deed
    at same
  rw [← Monitor.perform_map, ← Monitor.perform_map, again, same]

theorem set_hideWorker (workers : List (Worker κ)) (index : ℕ)
    {worker other : Worker κ} (same : hideWorker other = hideWorker worker) :
    ((workers.map hideWorker).set index other).map hideWorker =
      (workers.set index worker).map hideWorker := by
  have again : (workers.map hideWorker).map hideWorker =
      workers.map hideWorker := by
    simp [hideWorker]
  rw [List.map_set, List.map_set, again, same]

variable (hides : O.LengthOnly blind)

include hides

theorem handshakeFrames_blind (memory : σ) (frames : List (Frame UInt8)) :
    handshakeFrames O (blind memory) frames =
      (handshakeFrames O memory frames).map (Prod.map id blind) := by
  induction frames generalizing memory with
  | nil => rfl
  | cons frame rest ih =>
      simp only [handshakeFrames, hides.buildFrame_plain]
      cases O.buildFrame memory frame.msgType nullSid frame.payload.encode none
          none zeroNonce with
      | error error => rfl
      | ok built =>
          simp only [Except.map, bind, Except.bind, Prod.map_fst, Prod.map_snd, id, ih]
          cases handshakeFrames O built.2 rest <;> rfl

theorem handshakeTurn_blind (memory : σ) (run : Run π UInt8 κ)
    (block : Option PyError → Option (ℕ × Run π UInt8 κ)) :
    handshakeTurn O (blind memory) run block =
      (handshakeTurn O memory run block).map (hideHandshakeTurn blind) := by
  simp only [handshakeTurn, handshakeFrames_blind hides]
  cases block none with
  | none => rfl
  | some moved =>
      simp only [bind, Option.bind]
      cases handshakeFrames O memory
          (sentFrames (moved.2.log.drop run.log.length)) with
      | ok sent => rfl
      | error error =>
          dsimp only [Except.map]
          cases block (some error) <;> rfl

variable {setting : TrafficSetting κ} (s : Traffic σ κ)

theorem clientMove_hide {thread : ℕ}
    (armed : framingPoint (s.client.points thread) = true →
      s.client.shared.attributes.encKey ≠ none)
    (event : MethodEvent) (reach : ℕ) :
    ((hideTraffic blind s).clientMove O setting thread (hideMethodEvent event)
        reach).map (hideTraffic blind) =
      (s.clientMove O setting thread event reach).map (hideTraffic blind) := by
  unfold Traffic.clientMove
  refine bind_map_of_alike (clientTurn_hide hides s.memory setting.maxRetries
    (s.client.points thread) armed event reach) ?_
  intro one two same
  obtain ⟨deeds, memories, sent⟩ := ClientTurn.mk.inj same
  refine bind_map_of_alike (perform_hide deeds) ?_
  intro client other threads
  simp only [pure, Option.map_some, hideTraffic, threads, memories, sent,
    Option.some.injEq, Traffic.mk.injEq, true_and, and_true]
  simp [hideWorker]

theorem handshakeOver_hide {thread : ℕ}
    (outside : framingPoint (s.client.points thread) = false)
    {event : MethodEvent} (kept : hideMethodEvent event = event) :
    ((hideTraffic blind s).handshakeOver setting thread event).map
        (hideTraffic blind) =
      (s.handshakeOver setting thread event).map (hideTraffic blind) := by
  unfold Traffic.handshakeOver
  have deeds := methodProgram_hide .transparent setting.maxRetries
    (s.client.points thread) s.client.shared event outside
  rw [kept] at deeds
  refine bind_map_of_alike deeds ?_
  intro one two same
  refine bind_map_of_alike (perform_hide same) ?_
  intro client other threads
  simp only [pure, Option.map_some, hideTraffic, threads, hides.blind_blind,
    Option.some.injEq, Traffic.mk.injEq, true_and, and_true]
  simp [hideWorker]

theorem clientHandshaked_hide {thread : ℕ}
    (outside : framingPoint (s.client.points thread) = false) (sock reach : ℕ)
    (turn : HandshakeTurn σ (ClientPoint UInt8) κ) :
    ((hideTraffic blind s).clientHandshaked setting thread sock reach
        (hideHandshakeTurn blind turn)).map (hideTraffic blind) =
      (s.clientHandshaked setting thread sock reach turn).map
        (hideTraffic blind) := by
  obtain ⟨draws, ⟨point, log⟩, memory, sent⟩ := turn
  let next : Traffic σ κ := { s with
    clientRun := { point, log }
    draws
    memory
    wire := s.wire ++ segments (.client sock) reach sent }
  cases point with
  | returned nonceC nonceS keys =>
      have kept : hideMethodEvent (.handshaked (sessionOf keys)) =
          .handshaked (sessionOf keys) := rfl
      exact handshakeOver_hide hides next outside kept
  | raised error =>
      have kept : hideMethodEvent (.failed (raisedBy error)) =
          .failed (raisedBy error) := rfl
      exact handshakeOver_hide hides next outside kept
  | _ =>
      refine congrArg some ?_
      simp only [hideTraffic, hideHandshakeTurn, hides.blind_blind,
        Traffic.mk.injEq, true_and, and_true]
      simp [hideWorker, Monitor.map]

theorem clientHandshake_hide [DecidableEq κ] (thread : ℕ)
    (event : ClientEvent UInt8) (reach : ℕ) :
    ((hideTraffic blind s).clientHandshake O setting thread event reach).map
        (hideTraffic blind) =
      (s.clientHandshake O setting thread event reach).map
        (hideTraffic blind) := by
  unfold Traffic.clientHandshake
  have seen : (hideTraffic blind s).client.points thread =
      hidePoint (s.client.points thread) := rfl
  rw [seen]
  cases there : s.client.points thread with
  | handshake method sock =>
      have outside : framingPoint (s.client.points thread) = false := by
        rw [there]
        rfl
      change ((handshakeTurn O (blind s.memory) s.clientRun _).bind _).map _ =
        ((handshakeTurn O s.memory s.clientRun _).bind _).map _
      rw [handshakeTurn_blind hides]
      change ((Option.map _ (handshakeTurn O s.memory s.clientRun fun fault =>
        clientStep setting.suite setting.clientPrivateKey setting.serverPublicKey
          s.draws s.clientRun (clientFailing event fault))).bind _).map _ = _
      cases handshakeTurn O s.memory s.clientRun _ with
      | none => rfl
      | some turn => exact clientHandshaked_hide hides s outside sock reach turn
  | _ => rfl

theorem serverMove_hide (index : ℕ) (event : HandlerEvent) (reach : ℕ) :
    ((hideTraffic blind s).serverMove O index (hideHandlerEvent event)
        reach).map (hideTraffic blind) =
      (s.serverMove O index event reach).map (hideTraffic blind) := by
  unfold Traffic.serverMove
  change ((s.workers.map hideWorker)[index]?.bind _).map _ = _
  rw [List.getElem?_map]
  cases s.workers[index]? with
  | none => rfl
  | some worker =>
      change (Option.bind (serverTurn O (blind s.memory) s.limiter
          (hideHandler worker.handler) (hideHandlerEvent event)) _).map _ =
        (Option.bind (serverTurn O s.memory s.limiter worker.handler event) _).map _
      refine bind_map_of_alike (serverTurn_hide hides s.memory s.limiter
        worker.handler event) ?_
      intro one two same
      obtain ⟨limiter, handler, memories, sent⟩ := ServerTurn.mk.inj same
      have changed : hideWorker { hideWorker worker with handler := one.handler } =
          hideWorker { worker with handler := two.handler } :=
        congrArg (fun handler => ({ handler, run := worker.run } : Worker κ)) handler
      have workers := set_hideWorker s.workers index changed
      simp only [pure, Option.map_some, hideTraffic, workers, limiter, memories, sent]
      simp [Monitor.map]

theorem serverHandshaked_hide (index reach : ℕ) (h : Handler)
    (turn : HandshakeTurn σ (ServerPoint UInt8) κ) :
    ((hideTraffic blind s).serverHandshaked index reach (hideHandler h)
        (hideHandshakeTurn blind turn)).map (hideTraffic blind) =
      (s.serverHandshaked index reach h turn).map (hideTraffic blind) := by
  refine bind_map_of_alike (handlerAfter_hide s.limiter h turn.run.point) ?_
  intro one two same
  obtain ⟨limiter, handler⟩ := Prod.mk.inj same
  have changed : hideWorker ({ handler := one.2, run := turn.run } : Worker κ) =
      hideWorker { handler := two.2, run := turn.run } :=
    congrArg (fun handler => ({ handler, run := turn.run } : Worker κ)) handler
  have workers := set_hideWorker s.workers index changed
  change one.1 = two.1 at limiter
  simp only [pure, Option.map_some, hideTraffic, hideHandshakeTurn, workers, limiter,
    hides.blind_blind]
  simp [Monitor.map]

theorem serverHandshake_hide [DecidableEq κ] (index : ℕ)
    (event : Auth.ServerEvent UInt8) (reach : ℕ) :
    ((hideTraffic blind s).serverHandshake O setting index event reach).map
        (hideTraffic blind) =
      (s.serverHandshake O setting index event reach).map
        (hideTraffic blind) := by
  unfold Traffic.serverHandshake
  change ((s.workers.map hideWorker)[index]?.bind _).map _ = _
  rw [List.getElem?_map]
  cases s.workers[index]? with
  | none => rfl
  | some worker =>
      obtain ⟨⟨ip, point, log⟩, run⟩ := worker
      cases point with
      | handshake =>
          change ((handshakeTurn O (blind s.memory) run _).bind _).map _ =
            ((handshakeTurn O s.memory run _).bind _).map _
          rw [handshakeTurn_blind hides]
          change ((Option.map _ (handshakeTurn O s.memory run fun fault =>
            Auth.serverStep setting.suite setting.clientPublicKey
              setting.serverPrivateKey s.draws run
              (serverFailing event fault))).bind _).map _ = _
          cases handshakeTurn O s.memory run _ with
          | none => rfl
          | some turn =>
              exact serverHandshaked_hide hides s index reach
                { ip, point := .handshake, log } turn
      | _ => rfl

/-- A step goes by the lengths, where a key is at hand for the frame it sends. -/
theorem trafficStep_hide [DecidableEq κ]
    (armed : ∀ thread, framingPoint (s.client.points thread) = true →
      s.client.shared.attributes.encKey ≠ none)
    (event : TrafficEvent) :
    (trafficStep O setting (hideTraffic blind s) (hideTrafficEvent event)).map
        (hideTraffic blind) =
      (trafficStep O setting s event).map (hideTraffic blind) := by
  cases event with
  | client thread event reach =>
      exact clientMove_hide hides s (armed thread) event reach
  | clientHandshake thread event reach =>
      exact clientHandshake_hide hides s thread event reach
  | accept ip =>
      refine congrArg some ?_
      simp [hideTraffic, hideWorker, hides.blind_blind, Monitor.map]
  | server index event reach => exact serverMove_hide hides s index event reach
  | serverHandshake index event reach =>
      exact serverHandshake_hide hides s index event reach

end

/-! Whatever the threads do, a frame of `_do_request` goes out under a key. -/

/-- A client that is connected has a key. -/
def Ready (t : Tunnel) : Prop :=
  t.attributes.connected = true → t.attributes.encKey ≠ none

def Armed (point : MethodPoint) (t : Tunnel) : Prop :=
  match point with
  | .entered _ | .closeSock _ | .clearSock _ => Ready t
  | .openSock _ | .tcpConnect _ _ | .handshake _ _ => t.attributes.connected = false
  | .setMacKey _ _ | .setConnected _ | .sendFrame _ _ | .recvFrame _ _ =>
      t.attributes.encKey ≠ none
  | _ => True

/-- The deeds of the methods, with what they need and leave of the keys. -/
abbrev ArmedDeed (point : MethodPoint) (t : Tunnel) (deed : Deed MethodPoint Tunnel) :
    Prop :=
  deed.Allowed (fun point => point.inside = true) Ready Armed point t

theorem ready_of_apart {t : Tunnel} (apart : t.attributes.connected = false) :
    Ready t := by
  intro connected
  rw [apart] at connected
  cases connected

section

variable {point : MethodPoint} {t after : Tunnel}

theorem armed_afterException {method : Method} (error : PyError)
    (inside : point.inside = true)
    (apart : Armed point t → t.attributes.connected = false) :
    ArmedDeed point t (.release t (method.afterException error)) :=
  ⟨inside, inside_afterException error method,
    fun holds => ready_of_apart (apart holds)⟩

theorem armed_afterClose (method : Method) (inside : point.inside = true)
    (apart : after.attributes.connected = false) :
    ArmedDeed point t (method.afterClose after) := by
  cases method with
  | close => exact ⟨inside, nofun, fun _ => ready_of_apart apart⟩
  | _ => exact ⟨inside, rfl, fun _ => apart⟩

theorem armed_afterConnect (method : Method) (inside : point.inside = true)
    (key : Armed point t → after.attributes.encKey ≠ none) :
    ArmedDeed point t (method.afterConnect after) := by
  cases method with
  | doRequest request attempt => exact ⟨inside, rfl, key⟩
  | _ => exact ⟨inside, nofun, fun holds _ => key holds⟩

theorem attributes_closeSock : t.closeSock.attributes = t.attributes := by
  unfold Tunnel.closeSock
  split <;> rfl

theorem methodProgram_armed (P : Primitives) {maxRetries : ℕ}
    {event : MethodEvent} {deed : Deed MethodPoint Tunnel}
    (outside : framingPoint point = false)
    (does : methodProgram P maxRetries point t event = some deed) :
    ArmedDeed point t deed := by
  unfold methodProgram at does
  split at does
  case h_1 | h_2 =>
    cases does
    exact ⟨nofun, nofun⟩
  case h_3 request =>
    cases does
    exact ⟨nofun, inside_nextAttempt request 1 none⟩
  case h_4 method =>
    cases does
    exact ⟨nofun, rfl, id⟩
  case h_5 request attempt =>
    split at does
    case isTrue =>
      cases does
      exact ⟨rfl, rfl, id⟩
    case isFalse apart =>
      cases does
      refine ⟨rfl, rfl, fun ready => ready ?_⟩
      cases connected : t.attributes.connected with
      | true => rfl
      | false => exact absurd (.inl connected) apart
  case h_6 method _ =>
    cases does
    exact ⟨rfl, rfl, id⟩
  case h_7 method =>
    cases does
    refine ⟨rfl, rfl, fun ready => ?_⟩
    change t.closeSock.attributes.connected = true →
      t.closeSock.attributes.encKey ≠ none
    rw [attributes_closeSock]
    exact ready
  case h_8 method =>
    cases does
    exact ⟨rfl, rfl, fun _ => trivial⟩
  case h_9 method =>
    cases does
    exact armed_afterClose method rfl rfl
  case h_10 method error =>
    cases does
    exact armed_afterException error rfl id
  case h_11 method =>
    cases does
    exact ⟨rfl, rfl, id⟩
  case h_12 method sock error =>
    cases does
    exact armed_afterException error rfl id
  case h_13 method sock =>
    cases does
    exact ⟨rfl, rfl, id⟩
  case h_14 method sock error =>
    cases does
    exact armed_afterException error rfl id
  case h_15 method sock keys =>
    cases does
    exact ⟨rfl, rfl, fun _ => trivial⟩
  case h_16 method sock keys =>
    cases does
    exact ⟨rfl, rfl, fun _ => trivial⟩
  case h_17 method keys =>
    cases does
    exact ⟨rfl, rfl, fun _ => trivial⟩
  case h_18 method keys =>
    cases does
    exact ⟨rfl, rfl, fun _ => nofun⟩
  case h_19 method keys =>
    cases does
    exact ⟨rfl, rfl, id⟩
  case h_20 method =>
    cases does
    exact armed_afterConnect method rfl id
  case h_21 | h_22 => cases outside
  case h_23 request attempt lastErr =>
    cases does
    exact ⟨nofun, inside_nextAttempt request (attempt + 1) lastErr⟩
  case h_24 => cases does

variable {σ : Type} {O : Oracles σ} {memory : σ}

theorem sendTurn_armed (t : Tunnel) (request : Bytes) (attempt : ℕ)
    (urandom : GcmNonce) (fault : Option PyError) (reach : ℕ) :
    ArmedDeed (.sendFrame request attempt) t
      (sendTurn O memory t request attempt urandom fault reach).deed := by
  unfold sendTurn
  cases requestFrame O memory t.attributes request urandom with
  | error error => exact ⟨rfl, nofun, fun key _ => key⟩
  | ok sent =>
      cases fault with
      | none => exact ⟨rfl, rfl, id⟩
      | some error => exact ⟨rfl, nofun, fun key _ => key⟩

theorem receiveTurn_armed (t : Tunnel) (request : Bytes) (attempt : ℕ)
    (stream : Sock) :
    ArmedDeed (.recvFrame request attempt) t
      (receiveTurn O memory t request attempt stream).deed := by
  unfold receiveTurn
  cases requestReply O memory t.attributes stream <;>
    exact ⟨rfl, nofun, fun key _ => key⟩

theorem clientTurn_armed {maxRetries : ℕ} {event : MethodEvent} {reach : ℕ}
    {turn : ClientTurn σ}
    (turned : clientTurn O memory maxRetries point t event reach = some turn) :
    ArmedDeed point t turn.deed := by
  cases point with
  | sendFrame request attempt =>
      cases event with
      | sent urandom fault =>
          cases turned
          exact sendTurn_armed t request attempt urandom fault reach
      | _ => cases turned
  | recvFrame request attempt =>
      cases event with
      | received stream =>
          cases turned
          exact receiveTurn_armed t request attempt stream
      | _ => cases turned
  | handshake method sock => cases turned
  | _ =>
      obtain ⟨deed, does, rfl⟩ := Option.map_eq_some_iff.mp turned
      exact methodProgram_armed .transparent rfl does

end

/-- The threads of the client keep to the lock, and the key is there in time. -/
def Traffic.Guarded {σ κ : Type} (s : Traffic σ κ) : Prop :=
  s.client.Sound (fun point => point.inside = true) Ready Armed

section

variable {σ κ : Type} {O : Oracles σ} {setting : TrafficSetting κ}
  {s next : Traffic σ κ}

theorem Traffic.Guarded.key (guarded : s.Guarded) (thread : ℕ)
    (framing : framingPoint (s.client.points thread) = true) :
    s.client.shared.attributes.encKey ≠ none := by
  cases there : s.client.points thread with
  | sendFrame request attempt | recvFrame request attempt =>
      have holder := (guarded.exclusive thread).mp (by rw [there]; rfl)
      have armed := guarded.held thread holder
      rw [there] at armed
      exact armed
  | _ =>
      rw [there] at framing
      cases framing

theorem clientMove_guarded (guarded : s.Guarded) {thread : ℕ}
    {event : MethodEvent} {reach : ℕ}
    (moved : s.clientMove O setting thread event reach = some next) :
    next.Guarded := by
  obtain ⟨turn, turned, rest⟩ := Option.bind_eq_some_iff.mp moved
  obtain ⟨client, performed, same⟩ := Option.bind_eq_some_iff.mp rest
  cases same
  exact guarded.perform (clientTurn_armed turned) performed

theorem handshakeOver_guarded (guarded : s.Guarded) {thread : ℕ}
    (outside : framingPoint (s.client.points thread) = false)
    {event : MethodEvent}
    (moved : s.handshakeOver setting thread event = some next) :
    next.Guarded := by
  obtain ⟨deed, does, rest⟩ := Option.bind_eq_some_iff.mp moved
  obtain ⟨client, performed, same⟩ := Option.bind_eq_some_iff.mp rest
  cases same
  exact guarded.perform (methodProgram_armed .transparent outside does) performed

theorem clientHandshaked_guarded (guarded : s.Guarded) {thread sock reach : ℕ}
    (outside : framingPoint (s.client.points thread) = false)
    {turn : HandshakeTurn σ (ClientPoint UInt8) κ}
    (moved : s.clientHandshaked setting thread sock reach turn = some next) :
    next.Guarded := by
  unfold Traffic.clientHandshaked at moved
  dsimp only at moved
  split at moved
  case h_1 | h_2 =>
    refine handshakeOver_guarded ?_ ?_ moved
    · exact guarded
    · exact outside
  all_goals
    cases moved
    exact guarded

theorem clientHandshake_guarded [DecidableEq κ] (guarded : s.Guarded)
    {thread : ℕ} {event : ClientEvent UInt8} {reach : ℕ}
    (moved : s.clientHandshake O setting thread event reach = some next) :
    next.Guarded := by
  unfold Traffic.clientHandshake at moved
  split at moved
  case h_1 method sock there =>
    obtain ⟨turn, turned, rest⟩ := Option.bind_eq_some_iff.mp moved
    refine clientHandshaked_guarded guarded ?_ rest
    rw [there]
    rfl
  case h_2 => cases moved

theorem serverMove_client {index : ℕ} {event : HandlerEvent} {reach : ℕ}
    (moved : s.serverMove O index event reach = some next) :
    next.client = s.client := by
  obtain ⟨worker, found, rest⟩ := Option.bind_eq_some_iff.mp moved
  obtain ⟨turn, turned, same⟩ := Option.bind_eq_some_iff.mp rest
  cases same
  rfl

theorem serverHandshake_client [DecidableEq κ] {index : ℕ}
    {event : Auth.ServerEvent UInt8} {reach : ℕ}
    (moved : s.serverHandshake O setting index event reach = some next) :
    next.client = s.client := by
  obtain ⟨worker, found, rest⟩ := Option.bind_eq_some_iff.mp moved
  split at rest
  case h_1 =>
    obtain ⟨turn, turned, ended⟩ := Option.bind_eq_some_iff.mp rest
    unfold Traffic.serverHandshaked at ended
    obtain ⟨after, stepped, same⟩ := Option.bind_eq_some_iff.mp ended
    cases same
    rfl
  case h_2 => cases rest

theorem trafficStep_guarded [DecidableEq κ] (event : TrafficEvent)
    (guarded : s.Guarded) (stepped : trafficStep O setting s event = some next) :
    next.Guarded := by
  cases event with
  | client thread event reach => exact clientMove_guarded guarded stepped
  | clientHandshake thread event reach =>
      exact clientHandshake_guarded guarded stepped
  | accept ip =>
      cases stepped
      exact guarded
  | server index event reach =>
      unfold Traffic.Guarded
      rw [serverMove_client stepped]
      exact guarded
  | serverHandshake index event reach =>
      unfold Traffic.Guarded
      rw [serverHandshake_client stepped]
      exact guarded

theorem start_guarded (limiter : RateLimiter) (memory : σ) :
    (Traffic.start limiter memory : Traffic σ κ).Guarded :=
  Monitor.Sound.start nofun nofun

end

/-- Two events that differ at most in the contents of a request, or of what the
forwarder answers, and of an exception's text in its place. -/
inductive SameLengths : TrafficEvent → TrafficEvent → Prop
  | same (event : TrafficEvent) : SameLengths event event
  | request (thread reach : ℕ) {first second : Bytes}
      (length : first.length = second.length) :
      SameLengths (.client thread (.sendRequest first) reach)
        (.client thread (.sendRequest second) reach)
  | response (index reach : ℕ) {first second : Except String Bytes}
      (length : (responseData first).length = (responseData second).length) :
      SameLengths (.server index (.forwarded first) reach)
        (.server index (.forwarded second) reach)

theorem SameLengths.hidden {first second : TrafficEvent}
    (lengths : SameLengths first second) :
    hideTrafficEvent first = hideTrafficEvent second := by
  cases lengths with
  | same => rfl
  | request thread reach length =>
      exact congrArg (fun request => TrafficEvent.client thread (.sendRequest request) reach)
        (hide_eq_hide.mpr length)
  | response index reach length =>
      exact congrArg (fun response => TrafficEvent.server index (.forwarded (.ok response)) reach)
        (hide_eq_hide.mpr length)

/-- From any state that a run can reach, two runs whose requests and responses have
equal lengths put the same bytes on the network, one after the other. -/
theorem tunnel_reveals_only_lengths {κ : Type} [DecidableEq κ] (noise : Noise)
    (setting : TrafficSetting κ) (limiter : RateLimiter)
    {past events others : List TrafficEvent} {s : Traffic IdealMemory κ}
    (reached : run (trafficStep (.ideal noise) setting) (.start limiter .empty)
      past = some s)
    (lengths : List.Forall₂ SameLengths events others) :
    (run (trafficStep (.ideal noise) setting) s events).map Traffic.wire =
      (run (trafficStep (.ideal noise) setting) s others).map Traffic.wire := by
  have hides := ideal_lengthOnly noise
  have guarded : s.Guarded :=
    run_invariant (fun _ event _ => trafficStep_guarded event) reached
      (start_guarded limiter IdealMemory.empty)
  have unwinds : ∀ (one two : Traffic IdealMemory κ) (event other : TrafficEvent),
      one.Guarded → two.Guarded →
      hideTraffic IdealMemory.blind one = hideTraffic IdealMemory.blind two →
      SameLengths event other →
      (trafficStep (.ideal noise) setting one event).map
          (hideTraffic IdealMemory.blind) =
        (trafficStep (.ideal noise) setting two other).map
          (hideTraffic IdealMemory.blind) := by
    intro one two event other first second looks same
    rw [← trafficStep_hide hides one first.key, ← trafficStep_hide hides two second.key,
      looks, same.hidden]
  have alike := run_view (fun _ event _ => trafficStep_guarded event) unwinds lengths
    guarded guarded rfl
  have wires := congrArg (Option.map Traffic.wire) alike
  rw [Option.map_map, Option.map_map] at wires
  exact wires

/-! A connect with its handshake, and a call that another thread makes then. -/

def sampleBytes (draw length : ℕ) : Bytes :=
  List.replicate length (UInt8.ofNat draw)

theorem length_sampleBytes (draw length : ℕ) :
    (sampleBytes draw length).length = length := List.length_replicate

def sampleNoise : Noise where
  bytes := sampleBytes
  length_bytes := length_sampleBytes

def sampleTraffic : TrafficSetting UInt8 where
  suite := sampleSuite.toSuite
  clientPrivateKey := 1
  serverPublicKey := 2
  serverPrivateKey := 2
  clientPublicKey := 1
  maxRetries := 3

def sampleDraw (draw size : ℕ) : Bytes := sampleTraffic.suite.urandom draw size

def sampleHandshake : List TrafficEvent :=
  let suite := sampleTraffic.suite
  let toServer := sampleDraw 0 16 ++ sampleDraw 1 16
  let toClient := sampleDraw 1 16 ++ sampleDraw 0 16
  let hello := clientHelloPayload (sampleDraw 0 16) 0
  let answer := serverHelloPayload (sampleDraw 1 16) 0
    (suite.computeHmac toServer suite.challengeKey)
    (suite.sign 2 toServer (sampleDraw 2 pssSaltSize))
  let response := clientResponsePayload
    (suite.computeHmac toClient suite.challengeKey)
    (suite.sign 1 toClient (sampleDraw 3 pssSaltSize))
  let done := serverDonePayload (sampleDraw 4 16)
    (suite.encrypt 1 (sampleDraw 5 aesKeySize) (sampleDraw 6 oaepSeedSize))
  [.clientHandshake 0 (.start 0 none) 1000, .accept "10.0.0.1",
    .server 0 (.whitelist true) 0, .server 0 (.tryAdd 0) 0,
    .serverHandshake 0 (.clientHello
      (.ok { msgType := .handshakeClientHello, payload := hello }) 0 0 none) 1000,
    .clientHandshake 0 (.serverHello
      (.ok { msgType := .handshakeServerHello, payload := answer }) 0 none) 1000,
    .serverHandshake 0 (.clientResponse
      (.ok { msgType := .handshakeClientResponse, payload := response }) none) 1000,
    .clientHandshake 0 (.serverDone
      (.ok { msgType := .handshakeServerDone, payload := done })) 1000]

def sampleConnection : List TrafficEvent :=
  .client 0 .connect 0 :: List.replicate 7 (.client 0 .next 0) ++ sampleHandshake ++
    List.replicate 5 (.client 0 .next 0)

/-- A frame as it arrives: a payload of this size under noise. -/
def sampleArrival (msgType : MessageType) (size draw : ℕ) : Sock where
  incoming :=
    let body := frameBody msgType (sampleDraw 4 16) zeroNonce.val
      (sampleNoise.bytes draw (size + gcmTagSize))
    packHeader (body.length + hmacDigestSize) ++ body ++
      sampleNoise.bytes (draw + 1) hmacDigestSize
  cuts := []
  ending := .timeout
  outgoing := []

def sampleTalk (request response : Bytes) : List TrafficEvent :=
  [.client 1 (.sendRequest request) 0, .client 1 .next 0, .client 1 .next 0,
    .client 1 (.sent zeroNonce none) 1000, .server 0 (.checkIdle 1) 0,
    .server 0 (.received (sampleArrival .dataRequest 2 4)) 0,
    .server 0 (.touched 1) 0, .server 0 (.foundBucket 1) 0,
    .server 0 (.consumed 1) 0, .server 0 (.forwarded (.ok response)) 0,
    .server 0 (.sent zeroNonce none) 1000,
    .client 1 (.received (sampleArrival .dataResponse 3 6)) 0]

theorem tunnel_reveals_only_lengths_sample :
    ∃ s : Traffic IdealMemory UInt8,
      run (trafficStep (.ideal sampleNoise) sampleTraffic)
        (.start sampleLimiter .empty) sampleConnection = some s ∧
      (run (trafficStep (.ideal sampleNoise) sampleTraffic) s
        (sampleTalk [1, 2] [3, 4, 5])).any (fun s =>
          s.client.points 1 == .done (.returned (some [3, 4, 5]))) = true ∧
      (run (trafficStep (.ideal sampleNoise) sampleTraffic) s
          (sampleTalk [1, 2] [3, 4, 5])).map Traffic.wire =
        (run (trafficStep (.ideal sampleNoise) sampleTraffic) s
          (sampleTalk [9, 8] [7, 6, 5])).map Traffic.wire := by
  have ran : (run (trafficStep (.ideal sampleNoise) sampleTraffic)
      (.start sampleLimiter .empty) sampleConnection).any (fun s =>
        (run (trafficStep (.ideal sampleNoise) sampleTraffic) s
          (sampleTalk [1, 2] [3, 4, 5])).any (fun s =>
            s.client.points 1 == .done (.returned (some [3, 4, 5])))) = true := by
    decide +kernel
  obtain ⟨s, reached, answered⟩ := (Option.any_eq_true _ _).mp ran
  refine ⟨s, reached, answered, ?_⟩
  refine tunnel_reveals_only_lengths sampleNoise sampleTraffic sampleLimiter reached ?_
  exact .cons (.request 1 0 rfl) (.cons (.same _) (.cons (.same _) (.cons (.same _)
    (.cons (.same _) (.cons (.same _) (.cons (.same _) (.cons (.same _)
    (.cons (.same _) (.cons (.response 0 0 rfl) (.cons (.same _)
    (.cons (.same _) .nil)))))))))))

end VpnTunnel.Tunnel
