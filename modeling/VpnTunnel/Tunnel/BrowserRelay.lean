import VpnTunnel.Server.RelayLine
import VpnTunnel.Tunnel.Exchange

namespace VpnTunnel.Tunnel

open VpnTunnel.Crypto
open VpnTunnel.Client
open VpnTunnel.Server

/-! Browsers at the proxy, the tunnel behind it, and the forwarder at its end. -/

/-- What `json.loads` makes of a request at the server and of a response at the
proxy; `none` where the text is not of use. -/
structure JsonLoads where
  request : Bytes → Option CanonicalRequest
  response : Bytes → Option CanonicalResponse

/-- `_handle_connect` of the proxy, for one browser connection. -/
structure BrowserLoop where
  target : String
  /-- What was read from the browser, one RELAY for each. -/
  chunks : List Bytes
  /-- The latest `send_request`. -/
  call : ℕ
  deriving DecidableEq, Repr

/-- The loop is not left on this response, to the CONNECT or to a RELAY. -/
def BrowserLoop.goesOn (loop : BrowserLoop) : Option CanonicalResponse → Bool
  | none => false
  | some response =>
      if loop.chunks = [] then decide (response.statusCode = 200)
      else decide (response.closed ≠ some true)

structure Proxied where
  exchange : Exchange Bytes
  forwarder : Forwarder
  /-- The relay call that the server thread of a connection is in. -/
  running : AList fun _ : ℕ => ℕ
  /-- The threads of the proxy that serve a CONNECT. -/
  loops : AList fun _ : ℕ => BrowserLoop

inductive ProxiedEvent
  | connect (thread : ℕ) (target : String) (request : Bytes)
  | chunk (thread : ℕ) (data request : Bytes)
  /-- Any other caller of `send_request`. -/
  | other (thread : ℕ) (request : Bytes)
  | tunnel (event : ExchangeEvent Bytes)
  | forward (connection : ℕ)
  | relay (event : ForwarderEvent)
  | forwarded (connection : ℕ) (response : Bytes)

namespace Proxied

def start (maxRetries : ℕ) : Proxied :=
  { exchange := .start maxRetries, forwarder := .empty, running := ∅, loops := ∅ }

def connectRequest (target : String) : CanonicalRequest :=
  { method := "CONNECT", url := target, body := [] }

def relayRequest (target : String) (data : Bytes) : CanonicalRequest :=
  { method := "RELAY", url := target, body := data }

def connect (loads : JsonLoads) (s : Proxied) (thread : ℕ) (target : String)
    (request : Bytes) : Option Proxied :=
  if s.loops.lookup thread = none ∧
      loads.request request = some (connectRequest target) then do
    let exchange ← exchangeStep s.exchange (.sendRequest thread request)
    return { s with
      exchange
      loops := s.loops.insert thread
        { target, chunks := [], call := s.exchange.client.calls.length } }
  else none

/-- `browser_sock.recv` gave a chunk, and the loop relays it. -/
def chunk (loads : JsonLoads) (s : Proxied) (thread : ℕ)
    (data request : Bytes) : Option Proxied := do
  let loop ← s.loops.lookup thread
  match s.exchange.client.pointOf loop.call with
  | some (.returned response) =>
      if loop.goesOn (loads.response response) = true ∧ data ≠ [] ∧
          data.length ≤ 65536 ∧
          loads.request request = some (relayRequest loop.target data) then do
        let exchange ← exchangeStep s.exchange (.sendRequest thread request)
        return { s with
          exchange
          loops := s.loops.insert thread
            { loop with
              chunks := loop.chunks ++ [data]
              call := s.exchange.client.calls.length } }
      else none
  | _ => none

def other (s : Proxied) (thread : ℕ) (request : Bytes) : Option Proxied :=
  if s.loops.lookup thread = none then
    (exchangeStep s.exchange (.sendRequest thread request)).map
      fun exchange => { s with exchange }
  else none

def isSendRequest {ρ : Type} : ExchangeEvent ρ → Bool
  | .sendRequest _ _ => true
  | _ => false

def tunnel (s : Proxied) (event : ExchangeEvent Bytes) : Option Proxied :=
  if event.forwards = false ∧ isSendRequest event = false then
    (exchangeStep s.exchange event).map fun exchange => { s with exchange }
  else none

/-- The server thread calls `forward_request`; for a CONNECT or a RELAY that is a
task of the forwarder. -/
def forward (loads : JsonLoads) (s : Proxied) (connection : ℕ) :
    Option Proxied := do
  let c ← s.exchange.connections[connection]?
  match c.serving with
  | .handling sending => do
      let exchange ← exchangeStep s.exchange (.serverForward connection)
      let started := (loads.request sending.request).bind fun request =>
        forwarderStep s.forwarder (.request sending.thread request)
      match started with
      | some forwarder =>
          some { s with
            exchange, forwarder
            running := s.running.insert connection s.forwarder.tasks.length }
      | none => some { s with exchange }
  | _ => none

def forwarded (loads : JsonLoads) (s : Proxied) (connection : ℕ)
    (response : Bytes) : Option Proxied := do
  let exchange ← exchangeStep s.exchange (.serverForwarded connection response)
  match s.running.lookup connection with
  | none => some { s with exchange }
  | some task => do
      let self ← s.forwarder.tasks[task]?
      match self.point with
      | .done answer =>
          if loads.response response = some answer then
            some { s with exchange, running := s.running.erase connection }
          else none
      | _ => none

end Proxied

theorem connectRequest_dispatch (target : String) :
    (Proxied.connectRequest target).dispatch = .connect target := by
  have upper : "CONNECT".toUpper = "CONNECT" := by decide +kernel
  exact if_pos upper

theorem relayRequest_dispatch (target : String) (data : Bytes) :
    (Proxied.relayRequest target data).dispatch = .relay target data := by
  have different : "RELAY".toUpper ≠ "CONNECT" := by decide +kernel
  have upper : "RELAY".toUpper = "RELAY" := by decide +kernel
  exact (if_neg different).trans (if_pos upper)

def proxiedStep (loads : JsonLoads) (s : Proxied) :
    ProxiedEvent → Option Proxied
  | .connect thread target request => s.connect loads thread target request
  | .chunk thread data request => s.chunk loads thread data request
  | .other thread request => s.other thread request
  | .tunnel event => s.tunnel event
  | .forward connection => s.forward loads connection
  | .relay event =>
      if event.task = none then none
      else (forwarderStep s.forwarder event).map fun forwarder =>
        { s with forwarder }
  | .forwarded connection response => s.forwarded loads connection response

/-! What a step can do. -/

inductive ProxiedMove (loads : JsonLoads) (s : Proxied) :
    ProxiedEvent → Proxied → Prop
  | connect {thread : ℕ} {target : String} {request : Bytes}
      {exchange : Exchange Bytes} (fresh : s.loops.lookup thread = none)
      (loaded : loads.request request = some (Proxied.connectRequest target))
      (sent : ExchangeMove s.exchange (.sendRequest thread request) exchange) :
      ProxiedMove loads s (.connect thread target request) { s with
        exchange
        loops := s.loops.insert thread
          { target, chunks := [], call := s.exchange.client.calls.length } }
  | chunk {thread : ℕ} {data request response : Bytes} {loop : BrowserLoop}
      {exchange : Exchange Bytes} (here : s.loops.lookup thread = some loop)
      (returned : s.exchange.client.pointOf loop.call =
        some (.returned response))
      (loaded : loads.request request =
        some (Proxied.relayRequest loop.target data))
      (sent : ExchangeMove s.exchange (.sendRequest thread request) exchange) :
      ProxiedMove loads s (.chunk thread data request) { s with
        exchange
        loops := s.loops.insert thread
          { loop with
            chunks := loop.chunks ++ [data]
            call := s.exchange.client.calls.length } }
  | other {thread : ℕ} {request : Bytes} {exchange : Exchange Bytes}
      (sent : ExchangeMove s.exchange (.sendRequest thread request) exchange) :
      ProxiedMove loads s (.other thread request) { s with exchange }
  | tunnel {event : ExchangeEvent Bytes} {exchange : Exchange Bytes}
      (silent : event.forwards = false) (old : Proxied.isSendRequest event = false)
      (move : ExchangeMove s.exchange event exchange) :
      ProxiedMove loads s (.tunnel event) { s with exchange }
  | forwardRelay {connection : ℕ} {c : Connection Bytes} {sending : Sending Bytes}
      {exchange : Exchange Bytes} {request : CanonicalRequest}
      {forwarder : Forwarder}
      (found : s.exchange.connections[connection]? = some c)
      (handling : c.serving = .handling sending)
      (moved : ExchangeMove s.exchange (.serverForward connection) exchange)
      (after : exchange = { s.exchange with
        connections := s.exchange.connections.set connection
          { c with serving := .forwarding sending }
        handed := s.exchange.handed ++ [sending] })
      (loaded : loads.request sending.request = some request)
      (started : ForwarderMove s.forwarder (.request sending.thread request)
        forwarder) :
      ProxiedMove loads s (.forward connection) { s with
        exchange, forwarder
        running := s.running.insert connection s.forwarder.tasks.length }
  | forwardOther {connection : ℕ} {c : Connection Bytes} {sending : Sending Bytes}
      {exchange : Exchange Bytes}
      (found : s.exchange.connections[connection]? = some c)
      (handling : c.serving = .handling sending)
      (moved : ExchangeMove s.exchange (.serverForward connection) exchange)
      (after : exchange = { s.exchange with
        connections := s.exchange.connections.set connection
          { c with serving := .forwarding sending }
        handed := s.exchange.handed ++ [sending] })
      (plain : ∀ request, loads.request sending.request = some request →
        Forwarder.startPoint request.dispatch = none) :
      ProxiedMove loads s (.forward connection) { s with exchange }
  | relay {event : ForwarderEvent} {forwarder : Forwarder} {task : ℕ}
      {self : RelayTask} (found : s.forwarder.tasks[task]? = some self)
      (move : TaskMove s.forwarder task self event forwarder) :
      ProxiedMove loads s (.relay event) { s with forwarder }
  | forwardedOther {connection : ℕ} {response : Bytes} {exchange : Exchange Bytes}
      (moved : ExchangeMove s.exchange (.serverForwarded connection response)
        exchange) (plain : s.running.lookup connection = none) :
      ProxiedMove loads s (.forwarded connection response) { s with exchange }
  | forwardedRelay {connection task : ℕ} {response : Bytes} {self : RelayTask}
      {answer : CanonicalResponse} {exchange : Exchange Bytes}
      (moved : ExchangeMove s.exchange (.serverForwarded connection response)
        exchange) (runs : s.running.lookup connection = some task)
      (found : s.forwarder.tasks[task]? = some self)
      (done : self.point = .done answer)
      (loaded : loads.response response = some answer) :
      ProxiedMove loads s (.forwarded connection response) { s with
        exchange, running := s.running.erase connection }

section

variable {loads : JsonLoads} {s next : Proxied}

theorem forward_move {connection : ℕ}
    (stepped : s.forward loads connection = some next) :
    ProxiedMove loads s (.forward connection) next := by
  simp only [Proxied.forward, Option.bind_eq_bind,
    Option.bind_eq_some_iff] at stepped
  obtain ⟨c, found, stepped⟩ := stepped
  split at stepped
  case h_1 sending handling =>
    obtain ⟨exchange, forwarded, stepped⟩ := Option.bind_eq_some_iff.mp stepped
    have moved := exchangeStep_move forwarded
    have after : exchange = { s.exchange with
        connections := s.exchange.connections.set connection
          { c with serving := .forwarding sending }
        handed := s.exchange.handed ++ [sending] } := by
      change s.exchange.serverForward connection = _ at forwarded
      simp [Exchange.serverForward, found, handling] at forwarded
      exact forwarded.symm
    split at stepped
    case h_1 forwarder started =>
      cases stepped
      obtain ⟨request, loaded, begun⟩ := Option.bind_eq_some_iff.mp started
      exact .forwardRelay found handling moved after loaded
        (forwarderStep_move begun)
    case h_2 started =>
      cases stepped
      refine .forwardOther found handling moved after ?_
      intro request loaded
      rw [loaded] at started
      exact startPoint_eq_none started
  case h_2 => cases stepped

theorem forwarded_move {connection : ℕ} {response : Bytes}
    (stepped : s.forwarded loads connection response = some next) :
    ProxiedMove loads s (.forwarded connection response) next := by
  simp only [Proxied.forwarded, Option.bind_eq_bind,
    Option.bind_eq_some_iff] at stepped
  obtain ⟨exchange, moved, stepped⟩ := stepped
  split at stepped
  case h_1 plain =>
    cases stepped
    exact .forwardedOther (exchangeStep_move moved) plain
  case h_2 task runs =>
    obtain ⟨self, found, stepped⟩ := Option.bind_eq_some_iff.mp stepped
    split at stepped
    case h_1 answer done =>
      split at stepped
      · cases stepped
        exact .forwardedRelay (exchangeStep_move moved) runs found done ‹_›
      · cases stepped
    case h_2 => cases stepped

theorem proxiedStep_move {event : ProxiedEvent}
    (stepped : proxiedStep loads s event = some next) :
    ProxiedMove loads s event next := by
  cases event with
  | connect thread target request =>
      change s.connect loads thread target request = _ at stepped
      unfold Proxied.connect at stepped
      split at stepped
      case isTrue both =>
        obtain ⟨exchange, sent, same⟩ := Option.bind_eq_some_iff.mp stepped
        cases same
        exact .connect both.1 both.2 (exchangeStep_move sent)
      case isFalse => cases stepped
  | chunk thread data request =>
      change s.chunk loads thread data request = _ at stepped
      simp only [Proxied.chunk, Option.bind_eq_bind,
        Option.bind_eq_some_iff] at stepped
      obtain ⟨loop, here, stepped⟩ := stepped
      split at stepped
      case h_1 response returned =>
        split at stepped
        case isTrue all =>
          obtain ⟨exchange, sent, same⟩ := Option.bind_eq_some_iff.mp stepped
          cases same
          exact .chunk here returned all.2.2.2 (exchangeStep_move sent)
        case isFalse => cases stepped
      case h_2 => cases stepped
  | other thread request =>
      change s.other thread request = _ at stepped
      unfold Proxied.other at stepped
      split at stepped
      · obtain ⟨exchange, sent, rfl⟩ := Option.map_eq_some_iff.mp stepped
        exact .other (exchangeStep_move sent)
      · cases stepped
  | tunnel event =>
      change s.tunnel event = _ at stepped
      unfold Proxied.tunnel at stepped
      split at stepped
      case isTrue both =>
        obtain ⟨exchange, moved, rfl⟩ := Option.map_eq_some_iff.mp stepped
        exact .tunnel both.1 both.2 (exchangeStep_move moved)
      case isFalse => cases stepped
  | forward connection => exact forward_move stepped
  | relay event =>
      rw [proxiedStep] at stepped
      split at stepped
      case isTrue => cases stepped
      case isFalse about =>
        obtain ⟨forwarder, moved, rfl⟩ := Option.map_eq_some_iff.mp stepped
        cases forwarderStep_move moved with
        | request started => exact absurd rfl about
        | task about found move => exact .relay found move
  | forwarded connection response => exact forwarded_move stepped

end

end VpnTunnel.Tunnel
