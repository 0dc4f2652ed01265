import VpnTunnel.Tunnel.RelayPrefix

namespace VpnTunnel.Tunnel

open VpnTunnel.Crypto
open VpnTunnel.Client
open VpnTunnel.Server
open VpnTunnel.Foundation

/-! How often the attempts of `send_request` have a request carried out. -/

namespace Proxied

/-- What the target's sockets were sent is a first part of what the target's
browser connection sent. -/
def RelaysInOrder (target : String) (s : Proxied) : Prop :=
  ∀ thread loop, s.loops.lookup thread = some loop → loop.target = target →
    ∀ sock ∈ s.forwarder.socks, sock.target = target →
      (sock.written.map Prod.snd).flatten <+: loop.chunks.flatten

section

variable {loads : JsonLoads} {s next : Proxied} {event : ProxiedEvent}

theorem move_exchange (move : ProxiedMove loads s event next) :
    next.exchange = s.exchange ∨
      ∃ inner, ExchangeMove s.exchange inner next.exchange ∧
        (s.LossBeforeHandling event →
          Tunnel.LossBeforeHandling s.exchange inner) := by
  cases move with
  | connect fresh loaded sent => exact .inr ⟨_, sent, fun _ => trivial⟩
  | chunk here returned loaded sent => exact .inr ⟨_, sent, fun _ => trivial⟩
  | other sent => exact .inr ⟨_, sent, fun _ => trivial⟩
  | tunnel silent old move => exact .inr ⟨_, move, fun gentle => gentle⟩
  | forwardRelay found handling moved after loaded started =>
      exact .inr ⟨_, moved, fun _ => trivial⟩
  | forwardOther found handling moved after plain =>
      exact .inr ⟨_, moved, fun _ => trivial⟩
  | relay found move => exact .inl rfl
  | forwardedOther moved plain => exact .inr ⟨_, moved, fun _ => trivial⟩
  | forwardedRelay moved runs found done loaded =>
      exact .inr ⟨_, moved, fun _ => trivial⟩

theorem tried_of_run {maxRetries : ℕ} {events : List ProxiedEvent}
    (reached : run (proxiedStep loads) (.start maxRetries) events = some s) :
    s.exchange.Tried ∧ s.exchange.client.maxRetries = maxRetries := by
  have kept : ∀ (state : Proxied) (event : ProxiedEvent) (next : Proxied),
      state.exchange.Tried ∧ state.exchange.client.maxRetries = maxRetries →
      proxiedStep loads state event = some next →
      next.exchange.Tried ∧ next.exchange.client.maxRetries = maxRetries := by
    rintro state event next ⟨tried, same⟩ stepped
    rcases move_exchange (proxiedStep_move stepped) with kept | ⟨inner, move, -⟩
    · rw [kept]
      exact ⟨tried, same⟩
    · exact ⟨tried.step move, move.maxRetries.trans same⟩
  exact run_invariant kept reached ⟨Exchange.tried_start maxRetries, rfl⟩

theorem steady_of_run {maxRetries : ℕ} {events : List ProxiedEvent}
    (gentle : Along (proxiedStep loads) LossBeforeHandling (.start maxRetries)
      events)
    (reached : run (proxiedStep loads) (.start maxRetries) events = some s) :
    s.exchange.Steady := by
  have kept : ∀ (state : Proxied) (event : ProxiedEvent) (next : Proxied),
      Held state.exchange.client ∧ state.exchange.Steady →
      state.LossBeforeHandling event →
      proxiedStep loads state event = some next →
      Held next.exchange.client ∧ next.exchange.Steady := by
    rintro state event next ⟨held, steady⟩ guarded stepped
    rcases move_exchange (proxiedStep_move stepped) with
      kept | ⟨inner, move, gentle⟩
    · rw [kept]
      exact ⟨held, steady⟩
    · exact ⟨move.held held, steady.step held (gentle guarded) move⟩
  exact (run_invariant_along kept gentle reached
    ⟨held_create maxRetries, Exchange.steady_start maxRetries⟩).2

theorem linked_of_run {target : String} {maxRetries : ℕ}
    {events : List ProxiedEvent}
    (gentle : Along (proxiedStep loads) LossBeforeHandling (.start maxRetries)
      events)
    (alone : Along (proxiedStep loads) (OneBrowser loads target)
      (.start maxRetries) events)
    (reached : run (proxiedStep loads) (.start maxRetries) events = some s) :
    s.Linked loads target :=
  run_invariant_along
    (fun _ _ _ linked guarded stepped =>
      linked.step guarded.1 guarded.2 (proxiedStep_move stepped))
    (gentle.and alone) reached (linked_start loads target maxRetries)

end

end Proxied

/-- Each attempt has its request handed to `forward_request` at most once.  All of
them together do, and a CONNECT session of one browser gets its bytes once and in
order, if `recv_frame` fails only while the request has not been handed over and
no server thread will hand it over. -/
theorem handed_over_at_most_once (loads : JsonLoads) (target : String)
    (maxRetries : ℕ) (events : List ProxiedEvent) (s : Proxied)
    (reached : run (proxiedStep loads) (.start maxRetries) events = some s) :
    (s.exchange.handed.map Sending.key).Nodup ∧
    (∀ call, (s.exchange.handings call).length ≤ maxRetries) ∧
    (Along (proxiedStep loads) Proxied.LossBeforeHandling (.start maxRetries)
        events →
      (∀ call, (s.exchange.handings call).length ≤ 1) ∧
      (Along (proxiedStep loads) (Proxied.OneBrowser loads target)
          (.start maxRetries) events →
        s.RelaysInOrder target)) := by
  obtain ⟨tried, same⟩ := Proxied.tried_of_run reached
  refine ⟨tried.keys_handed, ?_, ?_⟩
  · intro call
    have bound := tried.handings_le call
    rw [same] at bound
    exact bound
  · intro gentle
    refine ⟨(Proxied.steady_of_run gentle reached).handings_le, ?_⟩
    intro alone thread loop here own sock member opened
    exact (Proxied.linked_of_run gentle alone reached).written here own member
      opened

/-! Two runs of one browser connection. -/

def sampleTexts : List Bytes :=
  ["\x7b\"method\": \"CONNECT\", \"url\": \"a:443\", \"headers\": \x7b\x7d, \"body\": \"\"\x7d",
    "\x7b\"method\": \"RELAY\", \"url\": \"a:443\", \"headers\": \x7b\x7d, \"body\": \"09\"\x7d",
    "\x7b\"status_code\": 200, \"headers\": \x7b\x7d, \"body\": \"\"\x7d",
    "\x7b\"status_code\": 200, \"headers\": \x7b\x7d, \"body\": \"\", \"closed\": false\x7d"].map
    encodeUtf8

def sampleText (index : ℕ) : Bytes := sampleTexts.getD index []

def sampleLoads : JsonLoads where
  request text :=
    if text = sampleText 0 then some (Proxied.connectRequest "a:443")
    else if text = sampleText 1 then some (Proxied.relayRequest "a:443" [9])
    else none
  response text :=
    if text = sampleText 2 then some (buildResponse 200 [] [])
    else if text = sampleText 3 then some (relayResponse [] false)
    else none

/-- The CONNECT is answered, and the browser sends a first chunk. -/
def sampleSession : List ProxiedEvent :=
  [.connect 0 "a:443" (sampleText 0),
    .tunnel (.enter 0 (.ok sampleExchangeKeys)), .tunnel (.send 0 none),
    .tunnel (.serverReceive 0), .forward 0, .relay (.connected 0),
    .relay (.install 0), .forwarded 0 (sampleText 2),
    .tunnel (.serverReply 0 none), .tunnel (.receive 0 .frame),
    .chunk 0 [9] (sampleText 1), .tunnel (.enter 1 (.ok sampleExchangeKeys)),
    .tunnel (.send 1 none)]

def sampleReconnect : List ProxiedEvent :=
  [.tunnel (.receive 1 (.failure .timeout 0)),
    .tunnel (.reconnect 1 (.ok sampleExchangeKeys)), .tunnel (.nextAttempt 1),
    .tunnel (.enter 1 (.ok sampleExchangeKeys)), .tunnel (.send 1 none),
    .tunnel (.serverReceive 1), .forward 1]

/-- The server thread has ended before it read the chunk's first frame. -/
def sampleEarlyLoss : List ProxiedEvent :=
  sampleSession ++ [.tunnel (.serverStop 0)] ++ sampleReconnect ++
    [.relay (.lookup 1), .relay (.sent 1), .relay (.quiet 1),
      .forwarded 1 (sampleText 3), .tunnel (.serverReply 1 none),
      .tunnel (.receive 1 .frame)]

/-- The target's answer takes longer than the client waits. -/
def sampleLateLoss : List ProxiedEvent :=
  sampleSession ++
    [.tunnel (.serverReceive 0), .forward 0, .relay (.lookup 1),
      .relay (.sent 1)] ++
    sampleReconnect ++ [.relay (.lookup 2), .relay (.sent 2)]

/-- What the runs show: the attempts of the RELAY that were handed over, and what
the target's sockets were sent. -/
def sampleView (s : Proxied) : List ℕ × List (List Bytes) :=
  ((s.exchange.handings 1).map Sending.attempt,
    s.forwarder.socks.map fun sock => sock.written.map Prod.snd)

theorem handed_over_at_most_once_early_loss :
    ∃ s, run (proxiedStep sampleLoads) (.start 3) sampleEarlyLoss = some s ∧
      sampleView s = ([2], [[[9]]]) ∧ s.RelaysInOrder "a:443" := by
  have ran : (run (proxiedStep sampleLoads) (.start 3) sampleEarlyLoss).map
      sampleView = some ([2], [[[9]]]) := by
    decide +kernel
  have gentle : Along (proxiedStep sampleLoads) Proxied.LossBeforeHandling
      (.start 3) sampleEarlyLoss := by
    decide +kernel
  have alone : Along (proxiedStep sampleLoads)
      (Proxied.OneBrowser sampleLoads "a:443") (.start 3) sampleEarlyLoss := by
    decide +kernel
  obtain ⟨s, reached, view⟩ := Option.map_eq_some_iff.mp ran
  have holds := handed_over_at_most_once sampleLoads "a:443" 3 sampleEarlyLoss s
    reached
  exact ⟨s, reached, view, (holds.2.2 gentle).2 alone⟩

/-- The retried chunk is handed over a second time and reaches the target twice,
though only one browser uses it. -/
theorem handed_over_twice :
    ∃ s, run (proxiedStep sampleLoads) (.start 3) sampleLateLoss = some s ∧
      Along (proxiedStep sampleLoads) (Proxied.OneBrowser sampleLoads "a:443")
        (.start 3) sampleLateLoss ∧
      ¬ (∀ call, (s.exchange.handings call).length ≤ 1) ∧
      ¬ s.RelaysInOrder "a:443" := by
  have ran : (run (proxiedStep sampleLoads) (.start 3) sampleLateLoss).map
      (fun s => (sampleView s, s.loops.lookup 0, s.forwarder.socks[0]?)) =
      some (([1, 2], [[[9], [9]]]),
        some { target := "a:443", chunks := [[9]], call := 1 },
        some { TargetSock.opened "a:443" 0 with
          written := [(0, [9]), (0, [9])] }) := by
    decide +kernel
  have alone : Along (proxiedStep sampleLoads)
      (Proxied.OneBrowser sampleLoads "a:443") (.start 3) sampleLateLoss := by
    decide +kernel
  obtain ⟨s, reached, shown⟩ := Option.map_eq_some_iff.mp ran
  obtain ⟨view, rest⟩ := Prod.mk.inj shown
  obtain ⟨here, found⟩ := Prod.mk.inj rest
  refine ⟨s, reached, alone, ?_, ?_⟩
  · intro once
    have attempts := congrArg List.length (Prod.mk.inj view).1
    rw [List.length_map] at attempts
    have bound := once 1
    rw [attempts] at bound
    exact absurd bound (by decide)
  · intro ordered
    have reachedTwice := ordered 0 _ here rfl _ (List.mem_of_getElem? found) rfl
    exact absurd reachedTwice (by decide)

end VpnTunnel.Tunnel
