import VpnTunnel.Auth.HonestNetwork
import VpnTunnel.Client.Attributes
import VpnTunnel.Crypto.Oracles
import VpnTunnel.Server.HandleClient

namespace VpnTunnel.Tunnel

open VpnTunnel.Crypto
open VpnTunnel.Client
open VpnTunnel.Server
open VpnTunnel.Auth hiding ServerEvent serverStep
open VpnTunnel.Foundation

/-! All that a `TunnelClient` and the server's `handle_client` threads write to the
network, over any oracles for AES-GCM and HMAC.  What a `recv_frame` reads is the
network's choice. -/

inductive Writer
  /-- The client, on the socket that it opened with this number. -/
  | client (sock : ℕ)
  | server (thread : ℕ)
  deriving DecidableEq, Repr

structure Segment where
  writer : Writer
  bytes : Bytes
  deriving DecidableEq, Repr

/-- A thread of `handle_client`, with its run of `server_handshake`. -/
structure Worker (κ : Type) where
  handler : Handler
  run : ServerRun UInt8 κ

structure Traffic (σ κ : Type) where
  client : TunnelThreads
  /-- The run of `client_handshake` in the thread that has the lock. -/
  clientRun : ClientRun UInt8 κ
  limiter : RateLimiter
  workers : List (Worker κ)
  draws : ℕ
  memory : σ
  wire : List Segment

structure TrafficSetting (κ : Type) where
  suite : Suite UInt8 κ
  clientPrivateKey : κ
  serverPublicKey : κ
  serverPrivateKey : κ
  clientPublicKey : κ
  maxRetries : ℕ

/-- `reach` is how many bytes of a frame get as far as the network. -/
inductive TrafficEvent
  | client (thread : ℕ) (event : MethodEvent) (reach : ℕ)
  | clientHandshake (thread : ℕ) (event : ClientEvent UInt8) (reach : ℕ)
  | accept (ip : Ip)
  | server (index : ℕ) (event : HandlerEvent) (reach : ℕ)
  | serverHandshake (index : ℕ) (event : Auth.ServerEvent UInt8) (reach : ℕ)

def sessionOf (keys : HandshakeKeys UInt8) : SessionKeys :=
  { sessionId := keys.sessionId, encKey := keys.encKey, macKey := keys.macKey }

/-- The exception as its caller sees it, without the libraries' own texts. -/
def raisedBy : HandshakeError UInt8 → PyError
  | .py error => error
  | .undecodable _ => .valueError "undecodable payload"
  | .notHex _ => .valueError "non-hexadecimal number found in fromhex() arg"
  | .decryption => .valueError "Decryption failed"
  | .serverRejected _ => .valueError "Server rejected handshake"

section

variable {σ κ π : Type} (O : Oracles σ) (memory : σ)

/-! `TunnelClient`.  Only two statements call the framing layer. -/

/-- The `send_frame` of `_do_request`, with whatever the attributes hold. -/
def requestFrame (self : Attributes) (request : Bytes) (urandom : GcmNonce) :
    Except PyError (ℕ × Bytes × σ) :=
  match self.sessionId with
  -- `len(None)`
  | none => .error .typeError
  | some sessionId =>
      match O.buildFrame memory .dataRequest sessionId request self.encKey
          self.macKey urandom with
      | .error error => .error error
      | .ok (frame, memory) =>
          match self.sock with
          -- `None` has no `sendall`.
          | none => .error .typeError
          | some sock => .ok (sock, frame, memory)

/-- The rest of `_do_request`. -/
def requestReply (self : Attributes) (stream : Sock) : Except PyError Bytes :=
  match self.sock with
  | none => .error .typeError
  | some _ =>
      match O.recvFrame memory self.encKey self.macKey stream with
      | .error error _ => .error error
      | .ok (msgType, _, response) _ => readReply msgType response

/-- What a statement does, what the oracles remember of it, and what is written. -/
structure ClientTurn (σ : Type) where
  deed : Deed MethodPoint Tunnel
  memory : σ
  sent : List Segment

def sendTurn (t : Tunnel) (request : Bytes) (attempt : ℕ) (urandom : GcmNonce)
    (fault : Option PyError) (reach : ℕ) : ClientTurn σ :=
  match requestFrame O memory t.attributes request urandom with
  | .error error =>
      { deed := .release t (.waiting (.reconnect request attempt error))
        memory
        sent := [] }
  | .ok (sock, frame, memory) =>
      let t := t.record sock (.wrote request frame)
      { deed :=
          match fault with
          | none => .work t (.recvFrame request attempt)
          | some error => .release t (.waiting (.reconnect request attempt error))
        memory
        sent := [{ writer := .client sock, bytes := frame.take reach }] }

def receiveTurn (t : Tunnel) (request : Bytes) (attempt : ℕ) (stream : Sock) :
    ClientTurn σ :=
  { deed :=
      match requestReply O memory t.attributes stream with
      | .ok response => .release t (.done (.returned (some response)))
      | .error error => .release t (.waiting (.reconnect request attempt error))
    memory
    sent := [] }

def clientTurn (maxRetries : ℕ) (point : MethodPoint) (t : Tunnel)
    (event : MethodEvent) (reach : ℕ) : Option (ClientTurn σ) :=
  match point, event with
  | .sendFrame request attempt, .sent urandom fault =>
      some (sendTurn O memory t request attempt urandom fault reach)
  | .recvFrame request attempt, .received stream =>
      some (receiveTurn O memory t request attempt stream)
  -- `client_handshake` runs step by step.
  | .handshake _ _, _ => none
  -- The other statements call no primitive.
  | point, event =>
      (methodProgram .transparent maxRetries point t event).map fun deed =>
        { deed, memory, sent := [] }

/-- The statements that call the framing layer. -/
def framingPoint : MethodPoint → Bool
  | .sendFrame _ _ | .recvFrame _ _ => true
  | _ => false

theorem methodProgram_elsewhere (P Q : Primitives) {maxRetries : ℕ}
    {point : MethodPoint} {t : Tunnel} {event : MethodEvent}
    (outside : framingPoint point = false) :
    methodProgram P maxRetries point t event =
      methodProgram Q maxRetries point t event := by
  cases point with
  | sendFrame request attempt | recvFrame request attempt => cases outside
  | entered method => cases method <;> cases event <;> rfl
  | _ => cases event <;> rfl

theorem clientTurn_elsewhere {maxRetries : ℕ} {point : MethodPoint} {t : Tunnel}
    {event : MethodEvent} {reach : ℕ}
    (outside : framingPoint point = false)
    (connected : ∀ method sock, point ≠ .handshake method sock) :
    clientTurn O memory maxRetries point t event reach =
      (methodProgram .transparent maxRetries point t event).map fun deed =>
        { deed, memory, sent := [] } := by
  cases point with
  | sendFrame request attempt | recvFrame request attempt => cases outside
  | handshake method sock => exact absurd rfl (connected method sock)
  | _ => rfl

/-! `handle_client`, in the same way. -/

structure ServerTurn (σ : Type) where
  limiter : RateLimiter
  handler : Handler
  memory : σ
  sent : List Bytes

def replyTurn (limiter : RateLimiter) (h : Handler) (keys : SessionKeys)
    (msgType : MessageType) (payload : Bytes) (urandom : GcmNonce)
    (fault : Option PyError) : ServerTurn σ :=
  let h := h.record (.passed msgType payload)
  match O.buildFrame memory msgType keys.sessionId payload (some keys.encKey)
      (some keys.macKey) urandom with
  | .error _ => { limiter, handler := h.goto .release, memory, sent := [] }
  | .ok (frame, memory) =>
      let h := h.record (.framed frame)
      let handler := match fault with
        | none => h.goto (.serving keys .idleCheck)
        | some _ => h.goto .release
      { limiter, handler, memory, sent := [frame] }

def receiveRequest (h : Handler) (keys : SessionKeys) (stream : Sock) : Handler :=
  match O.recvFrame memory (some keys.encKey) (some keys.macKey) stream with
  | .error _ _ => h.goto .release
  | .ok (msgType, _, requestData) _ =>
      if msgType ≠ .dataRequest then h.goto (.serving keys .idleCheck)
      else
        (h.record (.accepted requestData)).goto
          (.serving keys (.touch requestData))

def serverTurn (limiter : RateLimiter) (h : Handler) (event : HandlerEvent) :
    Option (ServerTurn σ) :=
  match h.point, event with
  | .serving keys .receive, .received stream =>
      let handler := receiveRequest O memory h keys stream
      some { limiter, handler, memory, sent := [] }
  | .serving keys .rateError, .sent urandom fault =>
      some (replyTurn O memory limiter h keys .error rateLimitMessage urandom fault)
  | .serving keys (.respond response), .sent urandom fault =>
      some (replyTurn O memory limiter h keys .dataResponse response urandom fault)
  -- `server_handshake` runs step by step.
  | .handshake, .handshaked _ => none
  | _, event =>
      (handlerStep .transparent limiter h event).map fun (limiter, handler) =>
        { limiter, handler, memory, sent := [] }

/-- The handler's next step calls the framing layer. -/
def framingEvent : HandlerPoint → HandlerEvent → Bool
  | .serving _ .receive, .received _ => true
  | .serving _ .rateError, .sent _ _ => true
  | .serving _ (.respond _), .sent _ _ => true
  | _, _ => false

theorem handlerStep_elsewhere (P Q : Primitives) {limiter : RateLimiter}
    {h : Handler} {event : HandlerEvent}
    (outside : framingEvent h.point event = false) :
    handlerStep P limiter h event = handlerStep Q limiter h event := by
  obtain ⟨ip, point, log⟩ := h
  cases point with
  | serving keys point =>
      cases point <;> cases event <;> first | rfl | cases outside
  | _ => cases event <;> rfl

theorem serverTurn_elsewhere {limiter : RateLimiter} {h : Handler}
    {event : HandlerEvent} (outside : framingEvent h.point event = false)
    (connected : h.point ≠ .handshake) :
    serverTurn O memory limiter h event =
      (handlerStep .transparent limiter h event).map fun (limiter, handler) =>
        { limiter, handler, memory, sent := [] } := by
  obtain ⟨ip, point, log⟩ := h
  cases point with
  | handshake => exact absurd rfl connected
  | serving keys point =>
      cases point <;> cases event <;> first | rfl | cases outside
  | _ => rfl

/-! The handshake of either side: a step of its run, and the frame that it sends. -/

def handshakeFrames : σ → List (Frame UInt8) → Except PyError (List Bytes × σ)
  | memory, [] => .ok ([], memory)
  | memory, frame :: rest => do
      let (bytes, memory) ← O.buildFrame memory frame.msgType nullSid
        frame.payload.encode none none zeroNonce
      let (frames, memory) ← handshakeFrames memory rest
      return (bytes :: frames, memory)

structure HandshakeTurn (σ π κ : Type) where
  draws : ℕ
  run : Run π UInt8 κ
  memory : σ
  sent : List Bytes

/-- A block with its `send_frame`, which raises when a frame does not fit. -/
def handshakeTurn (run : Run π UInt8 κ)
    (block : Option PyError → Option (ℕ × Run π UInt8 κ)) :
    Option (HandshakeTurn σ π κ) := do
  let (draws, moved) ← block none
  match handshakeFrames O memory
      (sentFrames (moved.log.drop run.log.length)) with
  | .ok (sent, memory) => return { draws, run := moved, memory, sent }
  | .error error =>
      let (draws, run) ← block (some error)
      return { draws, run, memory, sent := [] }

def clientFailing (event : ClientEvent UInt8) :
    Option PyError → ClientEvent UInt8
  | none => event
  | some error =>
      match event with
      | .start clock _ => .start clock (some error)
      | .serverHello received clock _ => .serverHello received clock (some error)
      | .serverDone received => .serverDone received

def serverFailing (event : Auth.ServerEvent UInt8) :
    Option PyError → Auth.ServerEvent UInt8
  | none => event
  | some error =>
      match event with
      | .clientHello received clock tsS _ =>
          .clientHello received clock tsS (some error)
      | .clientResponse received _ => .clientResponse received (some error)

end

/-! Over the library's functions these are the statements of the program. -/

section

variable (P : Primitives)

theorem requestFrame_real (self : Attributes) (request : Bytes)
    (urandom : GcmNonce) :
    requestFrame (.real P) () self request urandom =
      match self.sessionId with
      | none => .error .typeError
      | some sessionId =>
          match buildFrame P .dataRequest sessionId request self.encKey
              self.macKey urandom with
          | .error error => .error error
          | .ok frame =>
              match self.sock with
              | none => .error .typeError
              | some sock => .ok (sock, frame, ()) := by
  unfold requestFrame
  cases self.sessionId with
  | none => rfl
  | some sessionId =>
      simp only [Oracles.buildFrame_real]
      cases buildFrame P .dataRequest sessionId request self.encKey self.macKey
        urandom <;> rfl

theorem sendTurn_real (maxRetries : ℕ) (t : Tunnel) (request : Bytes)
    (attempt : ℕ) (urandom : GcmNonce) (fault : Option PyError) (reach : ℕ) :
    methodProgram P maxRetries (.sendFrame request attempt) t
        (.sent urandom fault) =
      some (sendTurn (.real P) () t request attempt urandom fault reach).deed := by
  unfold sendTurn
  rw [requestFrame_real, methodProgram, Tunnel.sendRequest]
  cases t.attributes.sessionId with
  | none => rfl
  | some sessionId =>
      dsimp only
      cases buildFrame P .dataRequest sessionId request t.attributes.encKey
        t.attributes.macKey urandom with
      | error error => rfl
      | ok frame =>
          cases t.attributes.sock with
          | none => rfl
          | some sock => cases fault <;> rfl

theorem receiveTurn_real (maxRetries : ℕ) (t : Tunnel) (request : Bytes)
    (attempt : ℕ) (stream : Sock) :
    methodProgram P maxRetries (.recvFrame request attempt) t
        (.received stream) =
      some (receiveTurn (.real P) () t request attempt stream).deed := by
  have same : requestReply (.real P) () t.attributes stream =
      t.receiveReply P stream := by
    rw [requestReply, Oracles.recvFrame_real]
    rfl
  rw [receiveTurn, same, methodProgram]
  cases t.receiveReply P stream <;> rfl

theorem clientTurn_real (maxRetries : ℕ) (point : MethodPoint) (t : Tunnel)
    (event : MethodEvent) (reach : ℕ)
    (outside : ∀ method sock, point ≠ .handshake method sock) :
    (clientTurn (.real P) () maxRetries point t event reach).map
        ClientTurn.deed =
      methodProgram P maxRetries point t event := by
  cases framing : framingPoint point with
  | false =>
      rw [clientTurn_elsewhere _ _ framing outside,
        methodProgram_elsewhere P .transparent framing, Option.map_map]
      exact congrFun Option.map_id _
  | true =>
      cases point with
      | sendFrame request attempt =>
          cases event with
          | sent urandom fault =>
              exact (sendTurn_real P maxRetries t request attempt urandom fault
                reach).symm
          | _ => rfl
      | recvFrame request attempt =>
          cases event with
          | received stream =>
              exact (receiveTurn_real P maxRetries t request attempt stream).symm
          | _ => rfl
      | _ => cases framing

theorem replyTurn_real (limiter : RateLimiter) (h : Handler) (keys : SessionKeys)
    (msgType : MessageType) (payload : Bytes) (urandom : GcmNonce)
    (fault : Option PyError) :
    (some (replyTurn (.real P) () limiter h keys msgType payload urandom
        fault)).map (fun turn => (turn.limiter, turn.handler)) =
      some (limiter, h.sendReply P keys msgType payload urandom fault) := by
  simp only [replyTurn, Handler.sendReply, Oracles.buildFrame_real]
  cases buildFrame P msgType keys.sessionId payload (some keys.encKey)
      (some keys.macKey) urandom with
  | error error => rfl
  | ok frame => cases fault <;> rfl

theorem serverTurn_real (limiter : RateLimiter) (h : Handler)
    (event : HandlerEvent) (outside : h.point ≠ .handshake) :
    (serverTurn (.real P) () limiter h event).map
        (fun turn => (turn.limiter, turn.handler)) =
      handlerStep P limiter h event := by
  cases framing : framingEvent h.point event with
  | false =>
      rw [serverTurn_elsewhere _ _ framing outside,
        handlerStep_elsewhere P .transparent framing, Option.map_map]
      exact congrFun Option.map_id _
  | true =>
      obtain ⟨ip, point, log⟩ := h
      cases point with
      | serving keys point =>
          cases point with
          | receive =>
              cases event with
              | received stream =>
                  simp only [serverTurn, receiveRequest, Oracles.recvFrame_real,
                    handlerStep, serveStep]
                  cases recvFrame P (some keys.encKey) (some keys.macKey)
                      stream with
                  | error error after => rfl
                  | ok frame after =>
                      dsimp only
                      split <;> rfl
              | _ => cases framing
          | rateError | respond response =>
              cases event with
              | sent urandom fault => exact replyTurn_real P limiter _ keys _ _ urandom fault
              | _ => cases framing
          | _ => cases framing
      | _ => cases framing

end

def segments (writer : Writer) (reach : ℕ) (frames : List Bytes) : List Segment :=
  frames.map fun frame => { writer, bytes := frame.take reach }

section

variable {σ κ : Type} (O : Oracles σ) (setting : TrafficSetting κ)

namespace Traffic

def start (limiter : RateLimiter) (memory : σ) : Traffic σ κ :=
  { client := .create
    clientRun := .start .clientHello
    limiter
    workers := []
    draws := 0
    memory
    wire := [] }

variable (s : Traffic σ κ)

def clientMove (thread : ℕ) (event : MethodEvent) (reach : ℕ) :
    Option (Traffic σ κ) := do
  let turn ← clientTurn O s.memory setting.maxRetries (s.client.points thread)
    s.client.shared event reach
  let client ← s.client.perform thread turn.deed
  return { s with client, memory := turn.memory, wire := s.wire ++ turn.sent }

/-- `_do_connect` goes on with what `client_handshake` came to. -/
def handshakeOver (thread : ℕ) (event : MethodEvent) : Option (Traffic σ κ) := do
  let deed ← methodProgram .transparent setting.maxRetries
    (s.client.points thread) s.client.shared event
  let client ← s.client.perform thread deed
  return { s with client, clientRun := .start .clientHello }

/-- A step of `client_handshake`; with its last one `_do_connect` goes on. -/
def clientHandshaked (thread sock reach : ℕ)
    (turn : HandshakeTurn σ (ClientPoint UInt8) κ) : Option (Traffic σ κ) :=
  let s := { s with
    clientRun := turn.run
    draws := turn.draws
    memory := turn.memory
    wire := s.wire ++ segments (.client sock) reach turn.sent }
  match turn.run.point with
  | .returned _ _ keys =>
      s.handshakeOver setting thread (.handshaked (sessionOf keys))
  | .raised error => s.handshakeOver setting thread (.failed (raisedBy error))
  | .clientHello | .serverHello _ | .serverDone _ _ => some s

def clientHandshake [DecidableEq κ] (thread : ℕ) (event : ClientEvent UInt8)
    (reach : ℕ) : Option (Traffic σ κ) :=
  match s.client.points thread with
  | .handshake _ sock =>
      (handshakeTurn O s.memory s.clientRun fun fault =>
        clientStep setting.suite setting.clientPrivateKey setting.serverPublicKey
          s.draws s.clientRun (clientFailing event fault)).bind
        (s.clientHandshaked setting thread sock reach)
  | _ => none

def serverMove (index : ℕ) (event : HandlerEvent) (reach : ℕ) :
    Option (Traffic σ κ) := do
  let worker ← s.workers[index]?
  let turn ← serverTurn O s.memory s.limiter worker.handler event
  return { s with
    limiter := turn.limiter
    workers := s.workers.set index { worker with handler := turn.handler }
    memory := turn.memory
    wire := s.wire ++ segments (.server index) reach turn.sent }

/-- `handle_client` goes on with what `server_handshake` came to. -/
def handlerAfter (limiter : RateLimiter) (h : Handler) :
    ServerPoint UInt8 → Option (RateLimiter × Handler)
  | .returned _ _ keys =>
      handlerStep .transparent limiter h (.handshaked (.ok (sessionOf keys)))
  | .raised error =>
      handlerStep .transparent limiter h (.handshaked (.error (raisedBy error)))
  | .clientHello | .clientResponse _ _ => some (limiter, h)

def serverHandshaked (index reach : ℕ) (h : Handler)
    (turn : HandshakeTurn σ (ServerPoint UInt8) κ) : Option (Traffic σ κ) := do
  let (limiter, handler) ← handlerAfter s.limiter h turn.run.point
  return { s with
    limiter
    workers := s.workers.set index { handler, run := turn.run }
    draws := turn.draws
    memory := turn.memory
    wire := s.wire ++ segments (.server index) reach turn.sent }

def serverHandshake [DecidableEq κ] (index : ℕ)
    (event : Auth.ServerEvent UInt8) (reach : ℕ) : Option (Traffic σ κ) := do
  let worker ← s.workers[index]?
  match worker.handler.point with
  | .handshake =>
      (handshakeTurn O s.memory worker.run fun fault =>
        Auth.serverStep setting.suite setting.clientPublicKey
          setting.serverPrivateKey s.draws worker.run
          (serverFailing event fault)).bind
        (s.serverHandshaked index reach worker.handler)
  | _ => none

end Traffic

def trafficStep [DecidableEq κ] (s : Traffic σ κ) :
    TrafficEvent → Option (Traffic σ κ)
  | .client thread event reach => s.clientMove O setting thread event reach
  | .clientHandshake thread event reach =>
      s.clientHandshake O setting thread event reach
  | .accept ip =>
      some { s with
        workers := s.workers ++
          [{ handler := .start ip, run := .start .clientHello }] }
  | .server index event reach => s.serverMove O index event reach
  | .serverHandshake index event reach =>
      s.serverHandshake O setting index event reach

end

end VpnTunnel.Tunnel
