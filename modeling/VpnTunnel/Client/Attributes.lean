import VpnTunnel.Client.DoRequest
import VpnTunnel.Foundation.Monitor

namespace VpnTunnel.Client

open VpnTunnel.Crypto
open VpnTunnel.Foundation

/-! `TunnelClient` one statement at a time: its attributes, the sockets it has
opened, and the methods as a program of threads under `_lock`. -/

structure Attributes where
  sock : Option ℕ
  sessionId : Option Bytes
  encKey : Option Bytes
  macKey : Option Bytes
  connected : Bool
  deriving DecidableEq, Repr

inductive SocketAction
  /-- `client_handshake` returned these on the socket. -/
  | handshaked (keys : SessionKeys)
  /-- A frame with this DATA_REQUEST went to `sendall`. -/
  | wrote (request frame : Bytes)
  | closed
  deriving DecidableEq, Repr

/-- The object's attributes and the log of each socket it has opened. -/
structure Tunnel where
  attributes : Attributes
  sockets : List (List SocketAction)
  deriving DecidableEq, Repr

/-- The methods that take `_lock`, with the local variables of `send_request`. -/
inductive Method
  | connect
  | close
  | doRequest (request : Bytes) (attempt : ℕ)
  /-- The `_do_connect` of the `except` clause. -/
  | reconnect (request : Bytes) (attempt : ℕ) (lastErr : PyError)
  deriving DecidableEq, Repr

inductive MethodOutcome
  | returned (response : Option Bytes)
  | raised (error : PyError)
  /-- The `ConnectionError` after the last attempt, with `last_err`. -/
  | exhausted (lastErr : Option PyError)
  deriving DecidableEq, Repr

inductive MethodPoint
  /-- Between two calls, after this outcome of the last one. -/
  | done (outcome : MethodOutcome)
  /-- Before `with self._lock`. -/
  | waiting (method : Method)
  | entered (method : Method)
  /-- The three statements of `_close_socket`. -/
  | closeSock (method : Method)
  | clearSock (method : Method)
  | clearConnected (method : Method)
  /-- `_do_connect` after that. -/
  | openSock (method : Method)
  | tcpConnect (method : Method) (sock : ℕ)
  | handshake (method : Method) (sock : ℕ)
  | setSock (method : Method) (sock : ℕ) (keys : SessionKeys)
  | setSessionId (method : Method) (keys : SessionKeys)
  | setEncKey (method : Method) (keys : SessionKeys)
  | setMacKey (method : Method) (keys : SessionKeys)
  | setConnected (method : Method)
  | sendFrame (request : Bytes) (attempt : ℕ)
  | recvFrame (request : Bytes) (attempt : ℕ)
  /-- After the reconnect, before the next attempt. -/
  | backoff (request : Bytes) (attempt : ℕ) (lastErr : PyError)
  deriving DecidableEq, Repr

/-- What the caller, TCP and `client_handshake` decide. -/
inductive MethodEvent
  | connect
  | close
  | sendRequest (request : Bytes)
  /-- The next statement, where nothing else decides. -/
  | next
  | failed (error : PyError)
  | handshaked (keys : SessionKeys)
  | sent (urandom : GcmNonce) (fault : Option PyError)
  | received (stream : Sock)

namespace Tunnel

def create : Tunnel where
  attributes :=
    { sock := none, sessionId := none, encKey := none, macKey := none,
      connected := false }
  sockets := []

def assign (t : Tunnel) (change : Attributes → Attributes) : Tunnel :=
  { t with attributes := change t.attributes }

def record (t : Tunnel) (sock : ℕ) (action : SocketAction) : Tunnel :=
  { t with sockets := t.sockets.modify sock (· ++ [action]) }

/-- `if self._sock: self._sock.close()`; what `close` raises is swallowed. -/
def closeSock (t : Tunnel) : Tunnel :=
  match t.attributes.sock with
  | none => t
  | some sock => t.record sock .closed

/-- The `send_frame` of `_do_request`, with whatever the attributes hold. -/
def sendRequest (P : Primitives) (t : Tunnel) (request : Bytes)
    (urandom : GcmNonce) (fault : Option PyError) : Tunnel × Option PyError :=
  match t.attributes.sessionId with
  -- `len(None)`
  | none => (t, some .typeError)
  | some sessionId =>
      match buildFrame P .dataRequest sessionId request t.attributes.encKey
          t.attributes.macKey urandom with
      | .error error => (t, some error)
      | .ok frame =>
          match t.attributes.sock with
          -- `None` has no `sendall`.
          | none => (t, some .typeError)
          | some sock => (t.record sock (.wrote request frame), fault)

/-- The rest of `_do_request`. -/
def receiveReply (P : Primitives) (t : Tunnel) (stream : Sock) :
    Except PyError Bytes :=
  match t.attributes.sock with
  | none => .error .typeError
  | some _ =>
      match recvFrame P t.attributes.encKey t.attributes.macKey stream with
      | .error error _ => .error error
      | .ok (msgType, _, response) _ => readReply msgType response

end Tunnel

/-- Where an exception under the lock continues once `with` has released it. -/
def Method.afterException (error : PyError) : Method → MethodPoint
  | .connect | .close => .done (.raised error)
  | .doRequest request attempt => .waiting (.reconnect request attempt error)
  | .reconnect request attempt lastErr => .backoff request attempt lastErr

def Method.afterClose (t : Tunnel) (method : Method) :
    Deed MethodPoint Tunnel :=
  match method with
  | .close => .release t (.done (.returned none))
  | _ => .work t (.openSock method)

def Method.afterConnect (t : Tunnel) : Method → Deed MethodPoint Tunnel
  | .connect | .close => .release t (.done (.returned none))
  | .doRequest request attempt => .work t (.sendFrame request attempt)
  | .reconnect request attempt lastErr =>
      .release t (.backoff request attempt lastErr)

/-- `for attempt in range(1, self.max_retries + 1)` -/
def nextAttempt (maxRetries : ℕ) (request : Bytes) (attempt : ℕ)
    (lastErr : Option PyError) : MethodPoint :=
  if attempt ≤ maxRetries then .waiting (.doRequest request attempt)
  else .done (.exhausted lastErr)

def methodProgram (P : Primitives) (maxRetries : ℕ) (point : MethodPoint)
    (t : Tunnel) (event : MethodEvent) : Option (Deed MethodPoint Tunnel) :=
  match point, event with
  | .done _, .connect => some (.move (.waiting .connect))
  | .done _, .close => some (.move (.waiting .close))
  | .done _, .sendRequest request =>
      some (.move (nextAttempt maxRetries request 1 none))
  | .waiting method, .next => some (.acquire (.entered method))
  | .entered (.doRequest request attempt), .next =>
      if t.attributes.connected = false ∨ t.attributes.sock = none then
        some (.work t (.closeSock (.doRequest request attempt)))
      else some (.work t (.sendFrame request attempt))
  | .entered method, .next => some (.work t (.closeSock method))
  | .closeSock method, .next =>
      some (.work t.closeSock (.clearSock method))
  | .clearSock method, .next =>
      some (.work (t.assign fun self => { self with sock := none })
        (.clearConnected method))
  | .clearConnected method, .next =>
      some (method.afterClose
        (t.assign fun self => { self with connected := false }))
  | .openSock method, .failed error =>
      some (.release t (method.afterException error))
  | .openSock method, .next =>
      some (.work { t with sockets := t.sockets ++ [[]] }
        (.tcpConnect method t.sockets.length))
  | .tcpConnect method _, .failed error =>
      some (.release t (method.afterException error))
  | .tcpConnect method sock, .next => some (.work t (.handshake method sock))
  | .handshake method _, .failed error =>
      some (.release t (method.afterException error))
  | .handshake method sock, .handshaked keys =>
      some (.work (t.record sock (.handshaked keys)) (.setSock method sock keys))
  | .setSock method sock keys, .next =>
      some (.work (t.assign fun self => { self with sock := some sock })
        (.setSessionId method keys))
  | .setSessionId method keys, .next =>
      some (.work (t.assign fun self =>
        { self with sessionId := some keys.sessionId }) (.setEncKey method keys))
  | .setEncKey method keys, .next =>
      some (.work (t.assign fun self => { self with encKey := some keys.encKey })
        (.setMacKey method keys))
  | .setMacKey method keys, .next =>
      some (.work (t.assign fun self => { self with macKey := some keys.macKey })
        (.setConnected method))
  | .setConnected method, .next =>
      some (method.afterConnect
        (t.assign fun self => { self with connected := true }))
  | .sendFrame request attempt, .sent urandom fault =>
      match t.sendRequest P request urandom fault with
      | (t, none) => some (.work t (.recvFrame request attempt))
      | (t, some error) =>
          some (.release t (.waiting (.reconnect request attempt error)))
  | .recvFrame request attempt, .received stream =>
      match t.receiveReply P stream with
      | .ok response => some (.release t (.done (.returned (some response))))
      | .error error =>
          some (.release t (.waiting (.reconnect request attempt error)))
  | .backoff request attempt lastErr, .next =>
      some (.move (nextAttempt maxRetries request (attempt + 1) lastErr))
  | _, _ => none

abbrev TunnelThreads := Monitor MethodPoint Tunnel

def threadsStep (P : Primitives) (maxRetries : ℕ) :
    TunnelThreads → ℕ × MethodEvent → Option TunnelThreads :=
  monitorStep (methodProgram P maxRetries)

def TunnelThreads.create : TunnelThreads :=
  .start (.done (.returned none)) .create

end VpnTunnel.Client
