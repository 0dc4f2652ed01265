import Mathlib.Logic.Relation
import VpnTunnel.Client.TunnelClient
import VpnTunnel.Foundation.Machine
import VpnTunnel.Server.HandleClient

namespace VpnTunnel.Tunnel

open VpnTunnel.Crypto
open VpnTunnel.Client
open VpnTunnel.Server

/-! One `TunnelClient` and the server threads behind its connections, over a
network without an attacker: each connection is a pair of queues of frames, and
frames carry which attempt of which call they are about. -/

/-- A request frame on the wire. -/
structure Sending (ρ : Type) where
  call : ℕ
  attempt : ℕ
  thread : ℕ
  request : ρ
  deriving DecidableEq, Repr

structure Reply (ρ : Type) where
  about : Sending ρ
  msgType : MessageType
  payload : Bytes
  deriving DecidableEq, Repr

/-- Where the serve loop of `handle_client` stands. -/
inductive Serving (ρ : Type)
  | reading
  | handling (sending : Sending ρ)
  /-- Inside `forward_request`. -/
  | forwarding (sending : Sending ρ)
  | replying (reply : Reply ρ)
  | stopped
  deriving DecidableEq, Repr

def Serving.ended {ρ : Type} : Serving ρ → Bool
  | .stopped => true
  | _ => false

structure Connection (ρ : Type) where
  keys : SessionKeys
  toServer : List (Sending ρ)
  serving : Serving ρ
  toClient : List (Reply ρ)
  deriving DecidableEq, Repr

def Connection.sent {ρ : Type} (c : Connection ρ) (sending : Sending ρ) :
    Connection ρ :=
  { c with toServer := c.toServer ++ [sending] }

/-- The client's end of the connection has used up the first frames. -/
def Connection.read {ρ : Type} (c : Connection ρ) (count : ℕ) : Connection ρ :=
  { c with toClient := c.toClient.drop count }

/-- The requests sent here that may still get a reply. -/
def Connection.owed {ρ : Type} (c : Connection ρ) : List (Sending ρ) :=
  c.toClient.map Reply.about ++
    match c.serving with
    | .reading => c.toServer
    | .handling sending | .forwarding sending => sending :: c.toServer
    | .replying reply => reply.about :: c.toServer
    | .stopped => []

/-- The replies that the server has made up and the client not yet read. -/
def Connection.replies {ρ : Type} (c : Connection ρ) : List (Reply ρ) :=
  c.toClient ++
    match c.serving with
    | .replying reply => [reply]
    | _ => []

structure Forwarding (ρ : Type) where
  sending : Sending ρ
  response : Bytes
  deriving DecidableEq, Repr

structure Exchange (ρ : Type) where
  client : TunnelClient ρ
  connections : List (Connection ρ)
  /-- The calls of `forward_request`, and those that have returned. -/
  handed : List (Sending ρ)
  forwarded : List (Forwarding ρ)
  deriving DecidableEq, Repr

/-- What `recv_frame` comes to in `_do_request`: the next frame, or an exception
that may have used up some of what arrived. -/
inductive Receipt
  | frame
  | failure (failure : PyError) (lost : ℕ)
  deriving DecidableEq, Repr

inductive ExchangeEvent (ρ : Type)
  | sendRequest (thread : ℕ) (request : ρ)
  | enter (call : ℕ) (handshake : Except PyError SessionKeys)
  | send (call : ℕ) (fault : Option PyError)
  | receive (call : ℕ) (receipt : Receipt)
  | reconnect (call : ℕ) (handshake : Except PyError SessionKeys)
  | nextAttempt (call : ℕ)
  /-- `connect()` and `close()`, called by anyone. -/
  | connect (handshake : Except PyError SessionKeys)
  | close
  | serverReceive (connection : ℕ)
  | serverForward (connection : ℕ)
  | serverForwarded (connection : ℕ) (response : Bytes)
  | serverRefuse (connection : ℕ)
  | serverReply (connection : ℕ) (fault : Option PyError)
  | serverStop (connection : ℕ)

/-- The server thread that makes the step. -/
def ExchangeEvent.connection {ρ : Type} : ExchangeEvent ρ → Option ℕ
  | .serverReceive index | .serverForward index | .serverForwarded index _
  | .serverRefuse index | .serverReply index _ | .serverStop index => some index
  | _ => none

/-- Enters or leaves `forward_request`. -/
def ExchangeEvent.forwards {ρ : Type} : ExchangeEvent ρ → Bool
  | .serverForward _ | .serverForwarded _ _ => true
  | _ => false

namespace Exchange

variable {ρ : Type}

def start (maxRetries : ℕ) : Exchange ρ :=
  { client := .create maxRetries, connections := [], handed := [], forwarded := [] }

/-- A handshake that succeeded leaves a connection with a server thread. -/
def connectionsAfter (connections : List (Connection ρ))
    (handshake : Except PyError SessionKeys) : List (Connection ρ) :=
  match handshake with
  | .ok keys =>
      connections ++ [{ keys, toServer := [], serving := .reading, toClient := [] }]
  | .error _ => connections

def atConnection (s : Exchange ρ) (index : ℕ)
    (change : Connection ρ → Connection ρ) : Exchange ρ :=
  { s with connections := s.connections.modify index change }

def enter (s : Exchange ρ) (call : ℕ)
    (handshake : Except PyError SessionKeys) : Option (Exchange ρ) :=
  match s.client.lock, s.client.pointOf call with
  | none, some (.attempt n) =>
      some { s with
        client := s.client.enter call n s.connections.length handshake
        connections :=
          if s.client.ready then s.connections
          else connectionsAfter s.connections handshake }
  | _, _ => none

def send (s : Exchange ρ) (call : ℕ) (fault : Option PyError) :
    Option (Exchange ρ) :=
  match s.client.calls[call]?, s.client.sock with
  | some { thread, request, point := .sending n }, some sock =>
      let s' := { s with client := s.client.sent call n fault }
      match fault with
      | none =>
          some (s'.atConnection sock
            (·.sent { call, attempt := n, thread, request }))
      | some _ => some s'
  | _, _ => none

def receive (s : Exchange ρ) (call : ℕ) (receipt : Receipt) :
    Option (Exchange ρ) := do
  let sock ← s.client.sock
  let connection ← s.connections[sock]?
  match s.client.pointOf call, receipt with
  | some (.receiving n), .frame =>
      match connection.toClient with
      | reply :: _ =>
          some ({ s with
            client := s.client.received call n (.ok (reply.msgType, reply.payload))
            }.atConnection sock (·.read 1))
      | [] => none
  | some (.receiving n), .failure failure lost =>
      some ({ s with client := s.client.received call n (.error failure)
        }.atConnection sock (·.read lost))
  | _, _ => none

def reconnect (s : Exchange ρ) (call : ℕ)
    (handshake : Except PyError SessionKeys) : Option (Exchange ρ) :=
  match s.client.lock, s.client.pointOf call with
  | none, some (.failed n lastErr) =>
      some { s with
        client :=
          s.client.reconnect call n s.connections.length lastErr handshake
        connections := connectionsAfter s.connections handshake }
  | _, _ => none

def nextAttempt (s : Exchange ρ) (call : ℕ) : Option (Exchange ρ) :=
  match s.client.pointOf call with
  | some (.backoff n lastErr) =>
      some { s with client := s.client.nextAttempt call n lastErr }
  | _ => none

/-! The serve loop at one connection; `none` where it is elsewhere. -/

def serverReceive (c : Connection ρ) : Option (Connection ρ) :=
  match c.serving, c.toServer with
  | .reading, sending :: rest =>
      some { c with serving := .handling sending, toServer := rest }
  | _, _ => none

def serverRefuse (c : Connection ρ) : Option (Connection ρ) :=
  match c.serving with
  | .handling sending =>
      some { c with
        serving := .replying
          { about := sending, msgType := .error, payload := rateLimitMessage } }
  | _ => none

def serverReply (c : Connection ρ) (fault : Option PyError) :
    Option (Connection ρ) :=
  match c.serving, fault with
  | .replying reply, none =>
      some { c with serving := .reading, toClient := c.toClient ++ [reply] }
  | .replying _, some _ => some { c with serving := .stopped }
  | _, _ => none

def serverStop (c : Connection ρ) : Option (Connection ρ) :=
  match c.serving with
  | .forwarding _ => none
  | _ => some { c with serving := .stopped }

def serverForward (s : Exchange ρ) (index : ℕ) : Option (Exchange ρ) := do
  let c ← s.connections[index]?
  match c.serving with
  | .handling sending =>
      some { s with
        connections :=
          s.connections.set index { c with serving := .forwarding sending }
        handed := s.handed ++ [sending] }
  | _ => none

def serverForwarded (s : Exchange ρ) (index : ℕ) (response : Bytes) :
    Option (Exchange ρ) := do
  let c ← s.connections[index]?
  match c.serving with
  | .forwarding sending =>
      some { s with
        connections := s.connections.set index { c with
          serving := .replying
            { about := sending, msgType := .dataResponse, payload := response } }
        forwarded := s.forwarded ++ [{ sending, response }] }
  | _ => none

def serve (s : Exchange ρ) (index : ℕ)
    (move : Connection ρ → Option (Connection ρ)) : Option (Exchange ρ) := do
  let c ← s.connections[index]?
  let c ← move c
  return { s with connections := s.connections.set index c }

end Exchange

def exchangeStep {ρ : Type} (s : Exchange ρ) :
    ExchangeEvent ρ → Option (Exchange ρ)
  | .sendRequest thread request =>
      (s.client.sendRequest thread request).map fun client => { s with client }
  | .enter call handshake => s.enter call handshake
  | .send call fault => s.send call fault
  | .receive call receipt => s.receive call receipt
  | .reconnect call handshake => s.reconnect call handshake
  | .nextAttempt call => s.nextAttempt call
  | .connect handshake =>
      if s.client.lock = none then
        some { s with
          client := s.client.doConnect s.connections.length handshake
          connections := Exchange.connectionsAfter s.connections handshake }
      else none
  | .close =>
      if s.client.lock = none then some { s with client := s.client.closeSocket }
      else none
  | .serverReceive index => s.serve index Exchange.serverReceive
  | .serverForward index => s.serverForward index
  | .serverForwarded index response => s.serverForwarded index response
  | .serverRefuse index => s.serve index Exchange.serverRefuse
  | .serverReply index fault =>
      s.serve index fun c => Exchange.serverReply c fault
  | .serverStop index => s.serve index Exchange.serverStop

/-! What a step can do, for either side. -/

inductive ServerMove {ρ : Type} (c : Connection ρ) :
    Connection ρ → List (Sending ρ) → List (Forwarding ρ) → Prop
  | receive {sending : Sending ρ} {rest : List (Sending ρ)}
      (reading : c.serving = .reading) (next : c.toServer = sending :: rest) :
      ServerMove c { c with serving := .handling sending, toServer := rest } [] []
  | forward {sending : Sending ρ} (handling : c.serving = .handling sending) :
      ServerMove c { c with serving := .forwarding sending } [sending] []
  | forwarded {sending : Sending ρ} (response : Bytes)
      (forwarding : c.serving = .forwarding sending) :
      ServerMove c { c with
        serving := .replying
          { about := sending, msgType := .dataResponse, payload := response } }
        [] [{ sending, response }]
  | refuse {sending : Sending ρ} (handling : c.serving = .handling sending) :
      ServerMove c { c with
        serving := .replying
          { about := sending, msgType := .error, payload := rateLimitMessage } }
        [] []
  | reply {reply : Reply ρ} (replying : c.serving = .replying reply) :
      ServerMove c { c with
        serving := .reading, toClient := c.toClient ++ [reply] } [] []
  | stop (outside : ∀ sending, c.serving ≠ .forwarding sending) :
      ServerMove c { c with serving := .stopped } [] []

inductive ExchangeMove {ρ : Type} (s : Exchange ρ) :
    ExchangeEvent ρ → Exchange ρ → Prop
  | sendRequest {thread : ℕ} {request : ρ} {point : CallPoint}
      (single : ∀ call ∈ s.client.calls, call.thread = thread →
        call.point.finished = true)
      (first : point = if 1 ≤ s.client.maxRetries then .attempt 1
        else .raised none) :
      ExchangeMove s (.sendRequest thread request) { s with
        client := { s.client with
          calls := s.client.calls ++ [{ thread, request, point }] } }
  | enter {call n : ℕ} {handshake : Except PyError SessionKeys}
      (free : s.client.lock = none)
      (here : s.client.pointOf call = some (.attempt n)) :
      ExchangeMove s (.enter call handshake) { s with
        client := s.client.enter call n s.connections.length handshake
        connections :=
          if s.client.ready then s.connections
          else Exchange.connectionsAfter s.connections handshake }
  | send {call n thread sock : ℕ} {request : ρ}
      (here : s.client.calls[call]? =
        some { thread, request, point := .sending n })
      (open_ : s.client.sock = some sock) :
      ExchangeMove s (.send call none)
        ({ s with client := s.client.goto call (.receiving n) }.atConnection sock
          (·.sent { call, attempt := n, thread, request }))
  | sendFault {call n : ℕ} {failure : PyError}
      (here : s.client.pointOf call = some (.sending n)) :
      ExchangeMove s (.send call (some failure)) { s with
        client := { s.client.goto call (.failed n failure) with lock := none } }
  | receive {call n sock : ℕ} {c : Connection ρ} {reply : Reply ρ}
      {rest : List (Reply ρ)}
      (here : s.client.pointOf call = some (.receiving n))
      (open_ : s.client.sock = some sock) (found : s.connections[sock]? = some c)
      (next : c.toClient = reply :: rest) :
      ExchangeMove s (.receive call .frame)
        ({ s with
          client := s.client.received call n (.ok (reply.msgType, reply.payload))
          }.atConnection sock (·.read 1))
  | receiveFault {call n sock : ℕ} {failure : PyError} {lost : ℕ}
      (here : s.client.pointOf call = some (.receiving n))
      (open_ : s.client.sock = some sock) :
      ExchangeMove s (.receive call (.failure failure lost))
        ({ s with
          client := { s.client.goto call (.failed n failure) with lock := none }
          }.atConnection sock (·.read lost))
  | reconnect {call n : ℕ} {lastErr : PyError}
      {handshake : Except PyError SessionKeys}
      (free : s.client.lock = none)
      (here : s.client.pointOf call = some (.failed n lastErr)) :
      ExchangeMove s (.reconnect call handshake) { s with
        client :=
          s.client.reconnect call n s.connections.length lastErr handshake
        connections := Exchange.connectionsAfter s.connections handshake }
  | nextAttempt {call n : ℕ} {lastErr : PyError}
      (here : s.client.pointOf call = some (.backoff n lastErr)) :
      ExchangeMove s (.nextAttempt call)
        { s with client := s.client.nextAttempt call n lastErr }
  | connect {handshake : Except PyError SessionKeys}
      (free : s.client.lock = none) :
      ExchangeMove s (.connect handshake) { s with
        client := s.client.doConnect s.connections.length handshake
        connections := Exchange.connectionsAfter s.connections handshake }
  | close (free : s.client.lock = none) :
      ExchangeMove s .close { s with client := s.client.closeSocket }
  | server {event : ExchangeEvent ρ} {index : ℕ} {c c' : Connection ρ}
      {handed : List (Sending ρ)} {forwardings : List (Forwarding ρ)}
      (here : event.connection = some index)
      (given : handed = [] ∨ event = .serverForward index)
      (answered : forwardings = [] ∨
        ∃ response, event = .serverForwarded index response)
      (found : s.connections[index]? = some c)
      (move : ServerMove c c' handed forwardings) :
      ExchangeMove s event { s with
        connections := s.connections.set index c'
        handed := s.handed ++ handed
        forwarded := s.forwarded ++ forwardings }

section

variable {ρ : Type} {s next : Exchange ρ}

theorem ExchangeMove.of_server {event : ExchangeEvent ρ} {index : ℕ}
    {c c' : Connection ρ} {handed : List (Sending ρ)}
    {forwardings : List (Forwarding ρ)}
    (here : event.connection = some index)
    (given : handed = [] ∨ event = .serverForward index)
    (answered : forwardings = [] ∨
      ∃ response, event = .serverForwarded index response)
    (found : s.connections[index]? = some c)
    (move : ServerMove c c' handed forwardings)
    (connections : next.connections = s.connections.set index c')
    (client : next.client = s.client) (handed_ : next.handed = s.handed ++ handed)
    (returned : next.forwarded = s.forwarded ++ forwardings) :
    ExchangeMove s event next := by
  obtain ⟨nextClient, nextConnections, nextHanded, nextForwarded⟩ := next
  cases connections
  cases client
  cases handed_
  cases returned
  exact .server here given answered found move

theorem ExchangeMove.of_serve {event : ExchangeEvent ρ} {index : ℕ}
    {step : Connection ρ → Option (Connection ρ)}
    (here : event.connection = some index)
    (moves : ∀ c c', step c = some c' → ServerMove c c' [] [])
    (stepped : s.serve index step = some next) : ExchangeMove s event next := by
  simp only [Exchange.serve, Option.bind_eq_bind, Option.pure_def,
    Option.bind_eq_some_iff] at stepped
  obtain ⟨c, found, c', moved, same⟩ := stepped
  cases same
  exact .of_server here (.inl rfl) (.inl rfl) found (moves c c' moved) rfl rfl
    (List.append_nil _).symm (List.append_nil _).symm

theorem serverReceive_move {c c' : Connection ρ}
    (moved : Exchange.serverReceive c = some c') : ServerMove c c' [] [] := by
  unfold Exchange.serverReceive at moved
  split at moved
  · cases moved
    exact .receive ‹_› ‹_›
  · cases moved

theorem serverRefuse_move {c c' : Connection ρ}
    (moved : Exchange.serverRefuse c = some c') : ServerMove c c' [] [] := by
  unfold Exchange.serverRefuse at moved
  split at moved
  · cases moved
    exact .refuse ‹_›
  · cases moved

theorem serverReply_move {fault : Option PyError} {c c' : Connection ρ}
    (moved : Exchange.serverReply c fault = some c') : ServerMove c c' [] [] := by
  unfold Exchange.serverReply at moved
  split at moved
  case h_1 reply replying =>
    cases moved
    exact .reply replying
  case h_2 reply failure replying =>
    cases moved
    refine .stop ?_
    intro sending forwarding
    rw [replying] at forwarding
    cases forwarding
  case h_3 => cases moved

theorem serverStop_move {c c' : Connection ρ}
    (moved : Exchange.serverStop c = some c') : ServerMove c c' [] [] := by
  unfold Exchange.serverStop at moved
  split at moved
  case h_1 => cases moved
  case h_2 outside =>
    cases moved
    exact .stop outside

theorem exchangeStep_move {event : ExchangeEvent ρ}
    (stepped : exchangeStep s event = some next) :
    ExchangeMove s event next := by
  cases event with
  | sendRequest thread request =>
      obtain ⟨client, started, rfl⟩ := Option.map_eq_some_iff.mp stepped
      unfold TunnelClient.sendRequest at started
      split at started
      · cases started
        exact .sendRequest ‹_› rfl
      · cases started
  | enter call handshake =>
      change s.enter call handshake = _ at stepped
      unfold Exchange.enter at stepped
      split at stepped
      · cases stepped
        exact .enter ‹_› ‹_›
      · cases stepped
  | send call fault =>
      change s.send call fault = _ at stepped
      unfold Exchange.send at stepped
      split at stepped
      case h_1 thread request n sock here open_ =>
        cases fault with
        | none =>
            cases stepped
            exact .send here open_
        | some failure =>
            cases stepped
            exact .sendFault (by rw [TunnelClient.pointOf, here]; rfl)
      case h_2 => cases stepped
  | receive call receipt =>
      change s.receive call receipt = _ at stepped
      simp only [Exchange.receive, Option.bind_eq_bind,
        Option.bind_eq_some_iff] at stepped
      obtain ⟨sock, open_, c, found, stepped⟩ := stepped
      split at stepped
      · split at stepped
        · cases stepped
          exact .receive ‹_› open_ found ‹_›
        · cases stepped
      · cases stepped
        exact .receiveFault ‹_› open_
      · cases stepped
  | reconnect call handshake =>
      change s.reconnect call handshake = _ at stepped
      unfold Exchange.reconnect at stepped
      split at stepped
      · cases stepped
        exact .reconnect ‹_› ‹_›
      · cases stepped
  | nextAttempt call =>
      change s.nextAttempt call = _ at stepped
      unfold Exchange.nextAttempt at stepped
      split at stepped
      · cases stepped
        exact .nextAttempt ‹_›
      · cases stepped
  | connect handshake =>
      rw [exchangeStep] at stepped
      split at stepped
      · cases stepped
        exact .connect ‹_›
      · cases stepped
  | close =>
      rw [exchangeStep] at stepped
      split at stepped
      · cases stepped
        exact .close ‹_›
      · cases stepped
  | serverReceive index =>
      exact .of_serve rfl (fun _ _ moved => serverReceive_move moved) stepped
  | serverForward index =>
      change s.serverForward index = _ at stepped
      simp only [Exchange.serverForward, Option.bind_eq_bind,
        Option.bind_eq_some_iff] at stepped
      obtain ⟨c, found, stepped⟩ := stepped
      split at stepped
      · cases stepped
        exact .of_server rfl (.inr rfl) (.inl rfl) found (.forward ‹_›) rfl rfl rfl
          (List.append_nil _).symm
      · cases stepped
  | serverForwarded index response =>
      change s.serverForwarded index response = _ at stepped
      simp only [Exchange.serverForwarded, Option.bind_eq_bind,
        Option.bind_eq_some_iff] at stepped
      obtain ⟨c, found, stepped⟩ := stepped
      split at stepped
      · cases stepped
        exact .of_server rfl (.inl rfl) (.inr ⟨response, rfl⟩) found
          (.forwarded response ‹_›) rfl rfl
          (List.append_nil _).symm rfl
      · cases stepped
  | serverRefuse index =>
      exact .of_serve rfl (fun _ _ moved => serverRefuse_move moved) stepped
  | serverReply index fault =>
      exact .of_serve rfl (fun _ _ moved => serverReply_move moved) stepped
  | serverStop index =>
      exact .of_serve rfl (fun _ _ moved => serverStop_move moved) stepped

/-- The client's side of a step is a step of its object. -/
theorem ExchangeMove.client {event : ExchangeEvent ρ}
    (move : ExchangeMove s event next) :
    next.client = s.client ∨ s.client.Step next.client := by
  cases move with
  | sendRequest single first =>
      rw [first]
      exact .inr (.sendRequest (if_pos single))
  | enter free here => exact .inr (.enter _ _ free here)
  | send here open_ =>
      refine .inr (.sent none ?_)
      rw [TunnelClient.pointOf, here]
      rfl
  | sendFault here => exact .inr (.sent (some _) here)
  | receive here open_ found next => exact .inr (.received _ here)
  | receiveFault here open_ => exact .inr (.received (.error _) here)
  | reconnect free here => exact .inr (.reconnect _ _ free here)
  | nextAttempt here => exact .inr (.nextAttempt here)
  | connect free => exact .inr (.connect _ _ free)
  | close free => exact .inr (.close free)
  | server here given answered found move => exact .inl rfl

/-- So every run over the network is a run of the client's object. -/
theorem run_client {events : List (ExchangeEvent ρ)}
    (reached : Foundation.run exchangeStep s events = some next) :
    Relation.ReflTransGen TunnelClient.Step s.client next.client := by
  have followed : ∀ before event after,
      Relation.ReflTransGen TunnelClient.Step s.client before.client →
      exchangeStep before event = some after →
        Relation.ReflTransGen TunnelClient.Step s.client after.client := by
    intro before event after steps stepped
    rcases (exchangeStep_move stepped).client with same | step
    · rw [same]
      exact steps
    · exact steps.tail step
  exact Foundation.run_invariant followed reached .refl

end

/-- What the handshake gave, for runs. -/
def sampleExchangeKeys : SessionKeys :=
  { sessionId := [7], encKey := [1], macKey := [2] }

end VpnTunnel.Tunnel
