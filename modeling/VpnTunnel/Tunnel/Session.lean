import VpnTunnel.Client.DoRequest
import VpnTunnel.Crypto.FrameSpec
import VpnTunnel.Server.HandleClient

namespace VpnTunnel.Tunnel

open VpnTunnel.Crypto
open VpnTunnel.Server
open VpnTunnel.Client

/-! Established sessions over a network that the attacker controls.  Each session
is one connection of a `TunnelClient` and the `handle_client` thread that serves
it, with the keys that the handshake gave both. -/

inductive ClientAction
  /-- A call of `send_frame`, and the frame it handed to the socket. -/
  | passed (payload : Bytes)
  | framed (frame : Bytes)
  | returned (response : Bytes)
  deriving DecidableEq, Repr

/-- A receiving end: its socket, and every piece the network put on it. -/
structure Link where
  sock : Sock
  arrivals : List Bytes

def Link.empty : Link :=
  { sock := { incoming := [], cuts := [], ending := .eof, outgoing := [] },
    arrivals := [] }

/-- The attacker appends any bytes and decides how reads are cut and end. -/
def Link.deliver (link : Link) (bytes : Bytes) (cuts : List Nat)
    (ending : StreamEnd) : Link :=
  { sock := { link.sock with
      incoming := link.sock.incoming ++ bytes, cuts, ending },
    arrivals := link.arrivals ++ [bytes] }

structure Session where
  keys : SessionKeys
  /-- `_do_request` has sent its frame and not yet read the reply. -/
  awaiting : Bool
  clientLog : List ClientAction
  toClient : Link
  handler : Handler
  toServer : Link

def Session.start (ip : Ip) (keys : SessionKeys) : Session :=
  { keys, awaiting := false, clientLog := [], toClient := .empty,
    handler := { ip, point := .serving keys .idleCheck, log := [] },
    toServer := .empty }

/-- The socket after `recv_frame`, whether it returns or raises. -/
def afterRecvFrame (P : Primitives) (keys : SessionKeys) (sock : Sock) : Sock :=
  match recvFrame P (some keys.encKey) (some keys.macKey) sock with
  | .ok _ rest | .error _ rest => rest

namespace Session

variable (P : Primitives)

/-- `send_frame` in `_do_request`; after an exception there is no reply to
read. -/
def clientSend (session : Session) (requestData : Bytes) (urandom : GcmNonce)
    (fault : Option PyError) : Option Session :=
  if session.awaiting then none
  else
    let keys := session.keys
    let log := session.clientLog ++ [.passed requestData]
    match buildFrame P .dataRequest keys.sessionId requestData
      (some keys.encKey) (some keys.macKey) urandom with
    | .error _ => some { session with clientLog := log }
    | .ok frame =>
        some { session with
          clientLog := log ++ [.framed frame], awaiting := fault.isNone }

def clientReceive (session : Session) : Option Session :=
  if session.awaiting then
    match receiveReply P session.keys session.toClient.sock with
    | .ok response sock =>
        some { session with
          awaiting := false
          clientLog := session.clientLog ++ [.returned response]
          toClient := { session.toClient with sock } }
    | .error _ sock =>
        some { session with
          awaiting := false, toClient := { session.toClient with sock } }
  else none

/-- A step of the thread; what `recv_frame` reads is the session's own stream. -/
def serverStep (limiter : RateLimiter) (session : Session) :
    HandlerEvent → Option (RateLimiter × Session)
  | .received _ =>
      (handlerStep P limiter session.handler
        (.received session.toServer.sock)).map fun (limiter, handler) =>
          (limiter, { session with
            handler
            toServer := { session.toServer with
              sock := afterRecvFrame P session.keys session.toServer.sock } })
  | event =>
      (handlerStep P limiter session.handler event).map
        fun (limiter, handler) => (limiter, { session with handler })

end Session

/-! The `compute_hmac` calls of `send_frame`, as pairs of key and body. -/

def sendFrameHmacs (P : Primitives) (msgType : MessageType) (keys : SessionKeys)
    (payload : Bytes) (urandom : GcmNonce) : List (Bytes × Bytes) :=
  if keys.sessionId.length = sessionIdSize then
    match protectPayload P payload (some keys.encKey) urandom with
    | .error _ => []
    | .ok (encPayload, nonce) =>
        [(orHandshakeKey (some keys.macKey),
          frameBody msgType keys.sessionId nonce encPayload)]
  else []

def handlerHmacs (P : Primitives) (h : Handler) (event : HandlerEvent) :
    List (Bytes × Bytes) :=
  match h.point, event with
  | .serving keys .rateError, .sent urandom _ =>
      sendFrameHmacs P .error keys rateLimitMessage urandom
  | .serving keys (.respond response), .sent urandom _ =>
      sendFrameHmacs P .dataResponse keys response urandom
  | _, _ => []

/-! The whole system. -/

structure TunnelState where
  limiter : RateLimiter
  sessions : List Session
  hmacCalls : List (Bytes × Bytes)

def TunnelState.start (limiter : RateLimiter) : TunnelState :=
  { limiter, sessions := [], hmacCalls := [] }

inductive TunnelEvent
  | establish (ip : Ip) (keys : SessionKeys)
  | networkToClient (index : ℕ) (bytes : Bytes) (cuts : List ℕ)
      (ending : StreamEnd)
  | networkToServer (index : ℕ) (bytes : Bytes) (cuts : List ℕ)
      (ending : StreamEnd)
  | clientSend (index : ℕ) (requestData : Bytes) (urandom : GcmNonce)
      (fault : Option PyError)
  | clientReceive (index : ℕ)
  | server (index : ℕ) (event : HandlerEvent)

def TunnelEvent.index : TunnelEvent → Option ℕ
  | .establish _ _ => none
  | .networkToClient index _ _ _ | .networkToServer index _ _ _
  | .clientSend index _ _ _ | .clientReceive index | .server index _ =>
      some index

def sessionStep (P : Primitives) (limiter : RateLimiter) (session : Session) :
    TunnelEvent → Option (RateLimiter × Session)
  | .establish _ _ => none
  | .networkToClient _ bytes cuts ending =>
      some (limiter, { session with
        toClient := session.toClient.deliver bytes cuts ending })
  | .networkToServer _ bytes cuts ending =>
      some (limiter, { session with
        toServer := session.toServer.deliver bytes cuts ending })
  | .clientSend _ requestData urandom fault =>
      (session.clientSend P requestData urandom fault).map (limiter, ·)
  | .clientReceive _ => (session.clientReceive P).map (limiter, ·)
  | .server _ event => session.serverStep P limiter event

def sessionHmacs (P : Primitives) (session : Session) :
    TunnelEvent → List (Bytes × Bytes)
  | .clientSend _ requestData urandom _ =>
      sendFrameHmacs P .dataRequest session.keys requestData urandom
  | .server _ event => handlerHmacs P session.handler event
  | _ => []

def tunnelStep (P : Primitives) (s : TunnelState) (event : TunnelEvent) :
    Option TunnelState :=
  match event with
  | .establish ip keys =>
      some { s with sessions := s.sessions ++ [.start ip keys] }
  | event => do
      let index ← event.index
      let session ← s.sessions[index]?
      let (limiter, moved) ← sessionStep P s.limiter session event
      return {
        limiter
        sessions := s.sessions.set index moved
        hmacCalls := s.hmacCalls ++ sessionHmacs P session event }

/-! What the logs say. -/

def acceptance : HandlerAction → Option Bytes
  | .accepted request => some request
  | _ => none

def serverFrame : HandlerAction → Option Bytes
  | .framed frame => some frame
  | _ => none

def returnValue : ClientAction → Option Bytes
  | .returned response => some response
  | _ => none

def clientFrame : ClientAction → Option Bytes
  | .framed frame => some frame
  | _ => none

def Session.accepted (session : Session) : List Bytes :=
  session.handler.log.filterMap acceptance

def Session.returned (session : Session) : List Bytes :=
  session.clientLog.filterMap returnValue

/-- The frames that either end put on the wire, in sending order. -/
def Session.clientFrames (session : Session) : List Bytes :=
  session.clientLog.filterMap clientFrame

def Session.serverFrames (session : Session) : List Bytes :=
  session.handler.log.filterMap serverFrame

theorem mem_filterMap_serverFrame {actions : List HandlerAction}
    {frame : Bytes} :
    frame ∈ actions.filterMap serverFrame ↔ .framed frame ∈ actions := by
  rw [List.mem_filterMap]
  constructor
  · rintro ⟨action, member, same⟩
    cases action <;> cases same
    exact member
  · intro member
    exact ⟨_, member, rfl⟩

theorem mem_filterMap_clientFrame {actions : List ClientAction}
    {frame : Bytes} :
    frame ∈ actions.filterMap clientFrame ↔ .framed frame ∈ actions := by
  rw [List.mem_filterMap]
  constructor
  · rintro ⟨action, member, same⟩
    cases action <;> cases same
    exact member
  · intro member
    exact ⟨_, member, rfl⟩

/-! The shapes of a session's steps. -/

section

variable {P : Primitives} {session moved : Session}

theorem Session.clientSend_cases {requestData : Bytes} {urandom : GcmNonce}
    {fault : Option PyError}
    (stepped : session.clientSend P requestData urandom fault = some moved) :
    moved = { session with
      clientLog := session.clientLog ++ [.passed requestData] } ∨
    ∃ frame, buildFrame P .dataRequest session.keys.sessionId requestData
        (some session.keys.encKey) (some session.keys.macKey) urandom =
          .ok frame ∧
      moved = { session with
        clientLog := session.clientLog ++ [.passed requestData] ++
          [.framed frame]
        awaiting := fault.isNone } := by
  unfold Session.clientSend at stepped
  split at stepped
  · cases stepped
  · dsimp only at stepped
    split at stepped
    case h_1 failure failed =>
      cases stepped
      exact .inl rfl
    case h_2 frame built =>
      cases stepped
      exact .inr ⟨frame, built, rfl⟩

theorem Session.clientReceive_cases
    (stepped : session.clientReceive P = some moved) :
    (∃ response sock,
      receiveReply P session.keys session.toClient.sock = .ok response sock ∧
      moved = { session with
        awaiting := false
        clientLog := session.clientLog ++ [.returned response]
        toClient := { session.toClient with sock } }) ∨
    ∃ failure sock,
      receiveReply P session.keys session.toClient.sock =
        .error failure sock ∧
      moved = { session with
        awaiting := false, toClient := { session.toClient with sock } } := by
  unfold Session.clientReceive at stepped
  split at stepped
  · split at stepped
    case h_1 response sock received =>
      cases stepped
      exact .inl ⟨response, sock, received, rfl⟩
    case h_2 failure sock failed =>
      cases stepped
      exact .inr ⟨failure, sock, failed, rfl⟩
  · cases stepped

theorem Session.serverStep_cases {limiter after : RateLimiter}
    {event : HandlerEvent}
    (stepped : session.serverStep P limiter event = some (after, moved)) :
    (∃ stream handler, event = .received stream ∧
      handlerStep P limiter session.handler
        (.received session.toServer.sock) = some (after, handler) ∧
      moved = { session with
        handler
        toServer := { session.toServer with
          sock := afterRecvFrame P session.keys session.toServer.sock } }) ∨
    ∃ handler, (∀ stream, event ≠ .received stream) ∧
      handlerStep P limiter session.handler event = some (after, handler) ∧
      moved = { session with handler } := by
  unfold Session.serverStep at stepped
  split at stepped
  case h_1 stream =>
    obtain ⟨⟨limiter, handler⟩, inner, pair⟩ :=
      Option.map_eq_some_iff.mp stepped
    cases pair
    exact .inl ⟨stream, handler, rfl, inner, rfl⟩
  case h_2 deaf =>
    obtain ⟨⟨limiter, handler⟩, inner, pair⟩ :=
      Option.map_eq_some_iff.mp stepped
    cases pair
    exact .inr ⟨handler, deaf, inner, rfl⟩

end

/-- The only steps: a new session, or one session moves. -/
theorem tunnelStep_cases {P : Primitives} {s next : TunnelState}
    {event : TunnelEvent} (stepped : tunnelStep P s event = some next) :
    (∃ ip keys, event = .establish ip keys ∧
      next = { s with sessions := s.sessions ++ [.start ip keys] }) ∨
    ∃ index session limiter moved, event.index = some index ∧
      s.sessions[index]? = some session ∧
      sessionStep P s.limiter session event = some (limiter, moved) ∧
      next = {
        limiter
        sessions := s.sessions.set index moved
        hmacCalls := s.hmacCalls ++ sessionHmacs P session event } := by
  unfold tunnelStep at stepped
  split at stepped
  case h_1 ip keys =>
    cases stepped
    exact .inl ⟨ip, keys, rfl, rfl⟩
  case h_2 =>
    simp only [Option.bind_eq_bind, Option.pure_def,
      Option.bind_eq_some_iff] at stepped
    obtain ⟨index, about, session, found, ⟨limiter, moved⟩, inner, same⟩ :=
      stepped
    cases same
    exact .inr ⟨index, session, limiter, moved, about, found, inner, rfl⟩

/-! One exchange of one session, to run. -/

def sampleKeys : SessionKeys :=
  { sessionId := List.replicate sessionIdSize 7
    encKey := List.replicate aesKeySize 1
    macKey := List.replicate aesKeySize 2 }

def sampleFrame (msgType : MessageType) (payload : Bytes) : Bytes :=
  match buildFrame .transparent msgType sampleKeys.sessionId payload
    (some sampleKeys.encKey) (some sampleKeys.macKey) zeroNonce with
  | .ok frame => frame
  | .error _ => []

/-- A limiter that has seen the ip, so that the connection is not idle. -/
def sampleLimiter : RateLimiter :=
  (RateLimiter.create 10 20 5 50 300).touch "10.0.0.1" 0

def sampleRequest : List TunnelEvent :=
  [.establish "10.0.0.1" sampleKeys, .clientSend 0 [1] zeroNonce none,
    .networkToServer 0 (sampleFrame .dataRequest [1]) [] .timeout]

/-- The serve loop reads a frame, forwards the request and replies. -/
def sampleServe (response : Bytes) : List TunnelEvent :=
  [.server 0 (.checkIdle 0), .server 0 (.received Link.empty.sock),
    .server 0 (.touched 0), .server 0 (.foundBucket 0),
    .server 0 (.consumed 0), .server 0 (.forwarded (.ok response)),
    .server 0 (.sent zeroNonce none)]

end VpnTunnel.Tunnel
