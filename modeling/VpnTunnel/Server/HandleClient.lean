import VpnTunnel.Crypto.Protocol
import VpnTunnel.Foundation.Machine
import VpnTunnel.Foundation.Text
import VpnTunnel.Server.RateLimit

namespace VpnTunnel.Server

open VpnTunnel.Crypto
open VpnTunnel.Foundation

/-! `handle_client` as a thread: where it stands, and what it did so far. -/

/-- The points of the serve loop, with the values bound there. -/
inductive ServePoint
  | idleCheck
  | receive
  | touch (request : Bytes)
  | findBucket (request : Bytes)
  | consume (request : Bytes)
  | rateError
  | forward (request : Bytes)
  | respond (response : Bytes)
  deriving DecidableEq, Repr

inductive HandlerPoint
  | accessControl
  | connectionCap
  | handshake
  | serving (keys : SessionKeys) (point : ServePoint)
  /-- The inner `finally`, which runs `remove_connection`. -/
  | release
  /-- The outer `finally`, which closes the socket. -/
  | close
  | closed
  deriving DecidableEq, Repr

inductive HandlerAction
  | admitted
  | accepted (request : Bytes)
  | granted
  | forwarded (request : Bytes)
  /-- A call of `send_frame`, and the frame it handed to the socket. -/
  | passed (msgType : MessageType) (payload : Bytes)
  | framed (frame : Bytes)
  | released
  deriving DecidableEq, Repr

structure Handler where
  ip : Ip
  point : HandlerPoint
  log : List HandlerAction
  deriving DecidableEq, Repr

/-- What the environment decides at the handler's next step: the whitelist's
answer, clock readings, the handshake's result, the stream that `recv_frame`
reads, random nonces, socket faults, and what `forward_request` gives. -/
inductive HandlerEvent
  | whitelist (allowed : Bool)
  | tryAdd (now : ℚ)
  | handshaked (outcome : Except PyError SessionKeys)
  | checkIdle (now : ℚ)
  | received (stream : Sock)
  | touched (now : ℚ)
  | foundBucket (now : ℚ)
  | consumed (now : ℚ)
  | sent (urandom : GcmNonce) (fault : Option PyError)
  | forwarded (outcome : Except String Bytes)
  | released
  | closed
  /-- Any other exception at this point of the code. -/
  | raised (failure : PyError)

def rateLimitMessage : Bytes :=
  encodeUtf8 "Rate limit exceeded — try again later"

/-- The `json.dumps` of the 500 response for an exception of the forwarder. -/
def forwardErrorResponse (failure : String) : Bytes :=
  encodeUtf8 ("\x7b\"status_code\": 500, \"headers\": \x7b\x7d, \"body\": \"" ++
    toHex (encodeUtf8 ("Forward error: " ++ failure)) ++ "\"\x7d")

namespace Handler

def start (ip : Ip) : Handler := { ip, point := .accessControl, log := [] }

def goto (h : Handler) (point : HandlerPoint) : Handler := { h with point }

def record (h : Handler) (action : HandlerAction) : Handler :=
  { h with log := h.log ++ [action] }

/-- `send_frame` under the session's keys, then on to the next iteration; an
exception leaves the loop. -/
def sendReply (P : Primitives) (h : Handler) (keys : SessionKeys)
    (msgType : MessageType) (payload : Bytes) (urandom : GcmNonce)
    (fault : Option PyError) : Handler :=
  let h := h.record (.passed msgType payload)
  match buildFrame P msgType keys.sessionId payload (some keys.encKey)
      (some keys.macKey) urandom with
  | .error _ => h.goto .release
  | .ok frame =>
      let h := h.record (.framed frame)
      match fault with
      | none => h.goto (.serving keys .idleCheck)
      | some _ => h.goto .release

/-- Where an exception that no inner `except` stops continues. -/
def afterException (h : Handler) : Option Handler :=
  match h.point with
  | .accessControl | .connectionCap => some (h.goto .close)
  | .handshake | .serving _ _ => some (h.goto .release)
  | .release | .close | .closed => none

end Handler

def serveStep (P : Primitives) (limiter : RateLimiter) (h : Handler)
    (keys : SessionKeys) :
    ServePoint → HandlerEvent → Option (RateLimiter × Handler)
  | .idleCheck, .checkIdle now =>
      if limiter.isIdle h.ip now then some (limiter, h.goto .release)
      else some (limiter, h.goto (.serving keys .receive))
  | .receive, .received stream =>
      match recvFrame P (some keys.encKey) (some keys.macKey) stream with
      -- `socket.timeout`, `ConnectionError` and `ValueError` break the loop,
      -- any other exception unwinds it: the `finally` comes next either way.
      | .error _ _ => some (limiter, h.goto .release)
      | .ok (msgType, _, requestData) _ =>
          if msgType ≠ .dataRequest then
            some (limiter, h.goto (.serving keys .idleCheck))
          else
            some (limiter, (h.record (.accepted requestData)).goto
              (.serving keys (.touch requestData)))
  | .touch request, .touched now =>
      some (limiter.touch h.ip now, h.goto (.serving keys (.findBucket request)))
  | .findBucket request, .foundBucket now =>
      some (limiter.findBucket h.ip now,
        h.goto (.serving keys (.consume request)))
  | .consume request, .consumed now =>
      let (allowed, limiter) := limiter.consumeFor h.ip now
      if allowed then
        some (limiter, (h.record .granted).goto
          (.serving keys (.forward request)))
      else some (limiter, h.goto (.serving keys .rateError))
  | .rateError, .sent urandom fault =>
      some (limiter, h.sendReply P keys .error rateLimitMessage urandom fault)
  | .forward request, .forwarded outcome =>
      let response := match outcome with
        | .ok responseData => responseData
        | .error failure => forwardErrorResponse failure
      some (limiter, (h.record (.forwarded request)).goto
        (.serving keys (.respond response)))
  | .respond response, .sent urandom fault =>
      some (limiter, h.sendReply P keys .dataResponse response urandom fault)
  | _, _ => none

def handlerStep (P : Primitives) (limiter : RateLimiter) (h : Handler)
    (event : HandlerEvent) : Option (RateLimiter × Handler) :=
  match event with
  | .raised _ => h.afterException.map fun h => (limiter, h)
  | event =>
      match h.point, event with
      | .accessControl, .whitelist allowed =>
          some (limiter,
            h.goto (if allowed then .connectionCap else .close))
      | .connectionCap, .tryAdd now =>
          let (admitted, limiter) := limiter.tryAddConnection h.ip now
          if admitted then some (limiter, (h.record .admitted).goto .handshake)
          else some (limiter, h.goto .close)
      | .handshake, .handshaked outcome =>
          match outcome with
          | .ok keys => some (limiter, h.goto (.serving keys .idleCheck))
          | .error _ => some (limiter, h.goto .release)
      | .serving keys point, event => serveStep P limiter h keys point event
      | .release, .released =>
          some (limiter.removeConnection h.ip, (h.record .released).goto .close)
      | .close, .closed => some (limiter, h.goto .closed)
      | _, _ => none

/-! The server: one limiter and a thread for each accepted connection. -/

structure ServerState where
  limiter : RateLimiter
  handlers : List Handler

inductive ServerEvent
  | accept (ip : Ip)
  | thread (index : ℕ) (event : HandlerEvent)

def ServerState.start (limiter : RateLimiter) : ServerState :=
  { limiter, handlers := [] }

def serverStep (P : Primitives) (s : ServerState) :
    ServerEvent → Option ServerState
  | .accept ip => some { s with handlers := s.handlers ++ [.start ip] }
  | .thread index event =>
      match s.handlers[index]? with
      | none => none
      | some h =>
          (handlerStep P s.limiter h event).map fun (limiter, h) =>
            { limiter, handlers := s.handlers.set index h }

end VpnTunnel.Server
