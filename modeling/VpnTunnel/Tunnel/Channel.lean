import VpnTunnel.Client.SessionBinding
import VpnTunnel.Crypto.Pipe
import VpnTunnel.Tunnel.Conversation

namespace VpnTunnel.Tunnel

open VpnTunnel.Crypto
open VpnTunnel.Foundation
open VpnTunnel.Client
open VpnTunnel.Server

/-! An established session over a TCP connection that is up: the threads of the
proxy in `send_request`, and the thread of the server that serves the session.  It
lasts until a thread of the proxy closes the socket or opens another one. -/

structure Channel where
  client : TunnelThreads
  limiter : RateLimiter
  handler : Handler
  upstream : Pipe
  downstream : Pipe

/-- In the server a time-out of `recv` is an exception as any other. -/
inductive ChannelEvent
  | call (thread : ℕ) (request : Bytes)
  /-- A thread takes the lock, or finds the session open. -/
  | next (thread : ℕ)
  | send (thread : ℕ) (urandom : GcmNonce)
  | receive (thread : ℕ) (cuts : List ℕ)
  /-- The 30 s are over that `client_handshake` has left on the socket. -/
  | timeout (thread : ℕ) (cuts : List ℕ)
  /-- A step of `handle_client` that is not on the socket. -/
  | server (event : HandlerEvent)
  | serverReceive (cuts : List ℕ)
  | serverSend (urandom : GcmNonce)
  /-- What the server's other threads make of the limiter. -/
  | others (limiter : RateLimiter)
  | upstream (size : ℕ)
  | downstream (size : ℕ)

/-- What `_do_connect` leaves behind. -/
def establishedTunnel (keys : SessionKeys) : Tunnel where
  attributes :=
    { sock := some 0, sessionId := some keys.sessionId, encKey := some keys.encKey,
      macKey := some keys.macKey, connected := true }
  sockets := [[.handshaked keys]]

/-- The frame that `_do_request` hands to `sendall`. -/
def requestBytes (P : Primitives) (self : Attributes) (request : Bytes)
    (urandom : GcmNonce) : Option Bytes :=
  match self.sessionId, self.sock with
  | some sessionId, some _ =>
      (buildFrame P .dataRequest sessionId request self.encKey self.macKey
        urandom).toOption
  | _, _ => none

/-- The frames that the handler handed to `sendall` since then. -/
def framesSince (h next : Handler) : List Bytes :=
  (next.log.drop h.log.length).filterMap serverFrame

def isSocketEvent : HandlerEvent → Bool
  | .received _ | .sent _ _ => true
  | _ => false

section

variable (P : Primitives) (maxRetries : ℕ)

namespace Channel

def start (keys : SessionKeys) (limiter : RateLimiter) (ip : Ip) : Channel :=
  { client := .start (.done (.returned none)) (establishedTunnel keys)
    limiter
    handler := { ip, point := .serving keys .idleCheck, log := [.admitted] }
    upstream := .empty
    downstream := .empty }

variable (s : Channel)

def clientDo (thread : ℕ) (event : MethodEvent) : Option Channel :=
  (threadsStep P maxRetries s.client (thread, event)).map fun client =>
    { s with client }

def next (thread : ℕ) : Option Channel :=
  match s.client.points thread with
  | .waiting (.doRequest _ _) | .entered (.doRequest _ _) =>
      s.clientDo P maxRetries thread .next
  -- The reconnect is the end of the session.
  | _ => none

def send (thread : ℕ) (urandom : GcmNonce) : Option Channel :=
  match s.client.points thread with
  | .sendFrame request _ =>
      let frame :=
        (requestBytes P s.client.shared.attributes request urandom).getD []
      (s.clientDo P maxRetries thread (.sent urandom none)).map fun s =>
        { s with upstream := s.upstream.write frame false }
  | _ => none

def receive (thread : ℕ) (cuts : List ℕ) : Option Channel :=
  match s.client.points thread with
  | .recvFrame _ _ => do
      let self := s.client.shared.attributes
      let (_, downstream) ←
        s.downstream.recvFrame P self.encKey self.macKey cuts
      let s ← s.clientDo P maxRetries thread
        (.received (s.downstream.sock cuts))
      return { s with downstream }
  | _ => none

def timeout (thread : ℕ) (cuts : List ℕ) : Option Channel :=
  match s.client.points thread with
  | .recvFrame _ _ => do
      let self := s.client.shared.attributes
      let downstream ← s.downstream.timeout P self.encKey self.macKey cuts
      let s ← s.clientDo P maxRetries thread
        (.received (s.downstream.sock cuts))
      return { s with downstream }
  | _ => none

/-- `handle_client` closes the socket last. -/
def handlerDo (event : HandlerEvent) : Option Channel :=
  (handlerStep P s.limiter s.handler event).map fun (limiter, handler) =>
    { s with
      limiter
      handler
      downstream := s.downstream.write (framesSince s.handler handler).flatten
        (handler.point = .closed) }

def serverReceive (cuts : List ℕ) : Option Channel :=
  match s.handler.point with
  | .serving keys .receive => do
      let (_, upstream) ←
        s.upstream.recvFrame P (some keys.encKey) (some keys.macKey) cuts
      let s ← s.handlerDo P (.received (s.upstream.sock cuts))
      return { s with upstream }
  | _ => none

end Channel

def channelStep (s : Channel) : ChannelEvent → Option Channel
  | .call thread request => s.clientDo P maxRetries thread (.sendRequest request)
  | .next thread => s.next P maxRetries thread
  | .send thread urandom => s.send P maxRetries thread urandom
  | .receive thread cuts => s.receive P maxRetries thread cuts
  | .timeout thread cuts => s.timeout P maxRetries thread cuts
  | .server event => if isSocketEvent event then none else s.handlerDo P event
  | .serverReceive cuts => s.serverReceive P cuts
  | .serverSend urandom => s.handlerDo P (.sent urandom none)
  | .others limiter => some { s with limiter }
  | .upstream size => (s.upstream.deliver size).map fun upstream =>
      { s with upstream }
  | .downstream size => (s.downstream.deliver size).map fun downstream =>
      { s with downstream }

end

/-- No `recv` of the proxy times out. -/
def Timely (_ : Channel) : ChannelEvent → Prop
  | .timeout _ _ => False
  | _ => True

instance (s : Channel) (event : ChannelEvent) : Decidable (Timely s event) :=
  match event with
  | .timeout _ _ => isFalse id
  | .call _ _ | .next _ | .send _ _ | .receive _ _ | .server _
  | .serverReceive _ | .serverSend _ | .others _ | .upstream _ | .downstream _ =>
      isTrue trivial

/-! The same threads when they call `forward_request` themselves. -/

inductive DirectPoint
  | idle (last : Option Bytes)
  | calling (request : Bytes)
  | returning (request response : Bytes)
  | failed (request : Bytes)
  deriving DecidableEq, Repr

structure Direct where
  points : ℕ → DirectPoint
  /-- The calls in the order in which they were executed. -/
  executed : List (Bytes × Bytes)

inductive DirectEvent
  | call (thread : ℕ) (request : Bytes)
  /-- `forward_request` runs, for this thread and once. -/
  | forward (thread : ℕ) (response : Bytes)
  | returned (thread : ℕ)
  | raised (thread : ℕ)
  deriving DecidableEq, Repr

namespace Direct

def start : Direct := { points := fun _ => .idle none, executed := [] }

def goto (d : Direct) (thread : ℕ) (point : DirectPoint) : Direct :=
  { d with points := Function.update d.points thread point }

@[simp] theorem goto_self (d : Direct) (thread : ℕ) (point : DirectPoint) :
    (d.goto thread point).points thread = point := by
  simp [goto]

@[simp] theorem goto_other (d : Direct) {thread other : ℕ} (point : DirectPoint)
    (different : other ≠ thread) :
    (d.goto thread point).points other = d.points other := by
  simp [goto, different]

end Direct

def directStep (d : Direct) : DirectEvent → Option Direct
  | .call thread request =>
      match d.points thread with
      | .idle _ => some (d.goto thread (.calling request))
      | _ => none
  | .forward thread response =>
      match d.points thread with
      | .calling request =>
          some { d.goto thread (.returning request response) with
            executed := d.executed ++ [(request, response)] }
      | _ => none
  | .returned thread =>
      match d.points thread with
      | .returning _ response => some (d.goto thread (.idle (some response)))
      | _ => none
  | .raised thread =>
      match d.points thread with
      | .calling request | .returning request _ =>
          some (d.goto thread (.failed request))
      | _ => none

/-- What the handler makes of the outcome of `forward_request`. -/
def responseOf : Except String Bytes → Bytes
  | .ok responseData => responseData
  | .error failure => forwardErrorResponse failure

/-- What a step of the channel is for the callers. -/
def directEvent (P : Primitives) (s : Channel) : ChannelEvent → Option DirectEvent
  | .call thread request => some (.call thread request)
  | .send thread urandom =>
      match s.client.points thread with
      | .sendFrame request _ =>
          if requestBytes P s.client.shared.attributes request urandom = none then
            some (.raised thread)
          else none
      | _ => none
  | .receive thread cuts =>
      match s.client.shared.receiveReply P (s.downstream.sock cuts) with
      | .ok _ => some (.returned thread)
      | .error _ => some (.raised thread)
  | .timeout thread _ => some (.raised thread)
  | .server (.forwarded outcome) =>
      s.client.lock.map fun thread => .forward thread (responseOf outcome)
  | _ => none

end VpnTunnel.Tunnel
