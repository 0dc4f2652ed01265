import VpnTunnel.Tunnel.Attempts

namespace VpnTunnel.Tunnel

open VpnTunnel.Crypto
open VpnTunnel.Client
open VpnTunnel.Server
open VpnTunnel.Foundation

/-! When all attempts of a call together hand its request over at most once. -/

/-- `recv_frame` fails only where the server thread of the connection has ended
and no attempt of the call was handed to `forward_request`. -/
def LossBeforeHandling {ρ : Type} (s : Exchange ρ) : ExchangeEvent ρ → Prop
  | .receive call (.failure _ _) =>
      s.handings call = [] ∧
        ∀ sock ∈ s.client.sock, ∀ c ∈ s.connections[sock]?,
          c.serving.ended = true
  | _ => True

instance {ρ : Type} [DecidableEq ρ] (s : Exchange ρ)
    (event : ExchangeEvent ρ) : Decidable (LossBeforeHandling s event) :=
  match event with
  | .receive call (.failure _ _) => inferInstanceAs (Decidable
      (s.handings call = [] ∧ ∀ sock ∈ s.client.sock,
        ∀ c ∈ s.connections[sock]?, c.serving.ended = true))
  | .receive _ .frame | .sendRequest _ _ | .enter _ _ | .send _ _
  | .reconnect _ _ | .nextAttempt _ | .connect _ | .close | .serverReceive _
  | .serverForward _ | .serverForwarded _ _ | .serverRefuse _
  | .serverReply _ _ | .serverStop _ => inferInstanceAs (Decidable True)

section

variable {ρ : Type}

/-- A connection that no call waits on: no request can come out of it any more,
and no response. -/
inductive Connection.Harmless (c : Connection ρ) : Prop
  | quiet (reading : c.serving = .reading) (unsent : c.toServer = [])
      (unread : c.toClient = [])
  | dead (stopped : c.serving = .stopped)
      (refused : ∀ reply ∈ c.toClient, reply.msgType ≠ .dataResponse)

/-- The connection that `call` waits on, with whether its request was handed to
`forward_request`. -/
inductive Connection.Turn (call : ℕ) (c : Connection ρ) : Bool → Prop
  | waiting {sending : Sending ρ} (reading : c.serving = .reading)
      (sent : c.toServer = [sending]) (own : sending.call = call)
      (unread : c.toClient = []) : Turn call c false
  | handling {sending : Sending ρ} (handling : c.serving = .handling sending)
      (unsent : c.toServer = []) (own : sending.call = call)
      (unread : c.toClient = []) : Turn call c false
  | forwarding {sending : Sending ρ}
      (forwarding : c.serving = .forwarding sending) (unsent : c.toServer = [])
      (own : sending.call = call) (unread : c.toClient = []) : Turn call c true
  | replying {reply : Reply ρ} {done : Bool}
      (replying : c.serving = .replying reply) (unsent : c.toServer = [])
      (unread : c.toClient = [])
      (answers : reply.msgType = .dataResponse ↔ done = true) : Turn call c done
  | arrived {reply : Reply ρ} {done : Bool} (reading : c.serving = .reading)
      (unsent : c.toServer = []) (arrived : c.toClient = [reply])
      (answers : reply.msgType = .dataResponse ↔ done = true) : Turn call c done
  | dead (stopped : c.serving = .stopped)
      (refused : ∀ reply ∈ c.toClient, reply.msgType ≠ .dataResponse) :
      Turn call c false
  | lost (stopped : c.serving = .stopped) (unread : c.toClient = []) :
      Turn call c true
  | late {reply : Reply ρ} (stopped : c.serving = .stopped)
      (arrived : c.toClient = [reply]) (response : reply.msgType = .dataResponse) :
      Turn call c true

variable {c c' : Connection ρ} {handed : List (Sending ρ)}
  {forwardings : List (Forwarding ρ)} {call : ℕ} {done : Bool}

theorem Connection.Harmless.idle (harmless : c.Harmless) :
    c.serving = .reading ∨ c.serving = .stopped := by
  cases harmless with
  | quiet reading _ _ => exact .inl reading
  | dead stopped _ => exact .inr stopped

/-- Without a call that waits, the serve loop can only end. -/
theorem Connection.Harmless.serve (harmless : c.Harmless)
    (move : ServerMove c c' handed forwardings) : c'.Harmless ∧ handed = [] := by
  cases move with
  | receive reading next =>
      cases harmless with
      | quiet _ unsent _ => cases unsent.symm.trans next
      | dead stopped _ => cases stopped.symm.trans reading
  | forward handling =>
      rcases harmless.idle with idle | idle <;> cases idle.symm.trans handling
  | forwarded response forwarding =>
      rcases harmless.idle with idle | idle <;> cases idle.symm.trans forwarding
  | refuse handling =>
      rcases harmless.idle with idle | idle <;> cases idle.symm.trans handling
  | reply replying =>
      rcases harmless.idle with idle | idle <;> cases idle.symm.trans replying
  | stop outside =>
      refine ⟨.dead rfl ?_, rfl⟩
      intro reply member
      cases harmless with
      | quiet _ _ unread =>
          change reply ∈ c.toClient at member
          rw [unread] at member
          cases member
      | dead _ refused => exact refused reply member

/-- What the serve loop makes of the connection that `call` waits on. -/
structure Connection.Served (call : ℕ) (done : Bool) (c' : Connection ρ)
    (handed : List (Sending ρ)) : Prop where
  turn : ∃ after, c'.Turn call after ∧
    after.toNat = done.toNat + handed.length
  own : ∀ sending ∈ handed, sending.call = call

theorem Connection.Turn.serve_stop (turn : c.Turn call done)
    (outside : ∀ sending, c.serving ≠ .forwarding sending) :
    ({ c with serving := .stopped } : Connection ρ).Turn call done := by
  have unread : c.toClient = [] →
      ∀ reply ∈ c.toClient, reply.msgType ≠ .dataResponse := by
    intro nothing reply member
    rw [nothing] at member
    cases member
  cases turn with
  | waiting reading sent own nothing => exact .dead rfl (unread nothing)
  | handling handling unsent own nothing => exact .dead rfl (unread nothing)
  | forwarding forwarding unsent own nothing =>
      exact absurd forwarding (outside _)
  | replying replying unsent nothing answers =>
      cases done with
      | true => exact .lost rfl nothing
      | false => exact .dead rfl (unread nothing)
  | @arrived reply _ reading unsent arrived answers =>
      cases done with
      | true => exact .late rfl arrived (answers.mpr rfl)
      | false =>
          refine .dead rfl ?_
          intro other member response
          change other ∈ c.toClient at member
          rw [arrived] at member
          rw [List.mem_singleton.mp member] at response
          cases answers.mp response
  | dead stopped refused => exact .dead rfl refused
  | lost stopped nothing => exact .lost rfl nothing
  | late stopped arrived response => exact .late rfl arrived response

theorem Connection.Turn.serve (turn : c.Turn call done)
    (move : ServerMove c c' handed forwardings) :
    Connection.Served call done c' handed := by
  cases move with
  | receive reading next =>
      cases turn with
      | waiting _ sent own unread =>
          cases sent.symm.trans next
          exact ⟨⟨false, .handling rfl rfl own unread, rfl⟩, nofun⟩
      | arrived _ unsent _ _ => cases unsent.symm.trans next
      | handling at_ _ _ _ => cases at_.symm.trans reading
      | forwarding at_ _ _ _ => cases at_.symm.trans reading
      | replying at_ _ _ _ => cases at_.symm.trans reading
      | dead at_ _ => cases at_.symm.trans reading
      | lost at_ _ => cases at_.symm.trans reading
      | late at_ _ _ => cases at_.symm.trans reading
  | forward handling =>
      cases turn with
      | handling at_ unsent own unread =>
          cases at_.symm.trans handling
          refine ⟨⟨true, .forwarding rfl unsent own unread, rfl⟩, ?_⟩
          intro sending member
          rw [List.mem_singleton.mp member]
          exact own
      | waiting at_ _ _ _ => cases at_.symm.trans handling
      | forwarding at_ _ _ _ => cases at_.symm.trans handling
      | replying at_ _ _ _ => cases at_.symm.trans handling
      | arrived at_ _ _ _ => cases at_.symm.trans handling
      | dead at_ _ => cases at_.symm.trans handling
      | lost at_ _ => cases at_.symm.trans handling
      | late at_ _ _ => cases at_.symm.trans handling
  | forwarded response forwarding =>
      cases turn with
      | forwarding at_ unsent own unread =>
          exact ⟨⟨true, .replying rfl unsent unread (by simp), rfl⟩, nofun⟩
      | waiting at_ _ _ _ => cases at_.symm.trans forwarding
      | handling at_ _ _ _ => cases at_.symm.trans forwarding
      | replying at_ _ _ _ => cases at_.symm.trans forwarding
      | arrived at_ _ _ _ => cases at_.symm.trans forwarding
      | dead at_ _ => cases at_.symm.trans forwarding
      | lost at_ _ => cases at_.symm.trans forwarding
      | late at_ _ _ => cases at_.symm.trans forwarding
  | refuse handling =>
      cases turn with
      | handling at_ unsent own unread =>
          exact ⟨⟨false, .replying rfl unsent unread (by simp), rfl⟩, nofun⟩
      | waiting at_ _ _ _ => cases at_.symm.trans handling
      | forwarding at_ _ _ _ => cases at_.symm.trans handling
      | replying at_ _ _ _ => cases at_.symm.trans handling
      | arrived at_ _ _ _ => cases at_.symm.trans handling
      | dead at_ _ => cases at_.symm.trans handling
      | lost at_ _ => cases at_.symm.trans handling
      | late at_ _ _ => cases at_.symm.trans handling
  | @reply reply replying =>
      cases turn with
      | replying at_ unsent unread answers =>
          cases at_.symm.trans replying
          refine ⟨⟨done, .arrived rfl unsent ?_ answers, rfl⟩, nofun⟩
          change c.toClient ++ [reply] = [reply]
          rw [unread]
          rfl
      | waiting at_ _ _ _ => cases at_.symm.trans replying
      | handling at_ _ _ _ => cases at_.symm.trans replying
      | forwarding at_ _ _ _ => cases at_.symm.trans replying
      | arrived at_ _ _ _ => cases at_.symm.trans replying
      | dead at_ _ => cases at_.symm.trans replying
      | lost at_ _ => cases at_.symm.trans replying
      | late at_ _ _ => cases at_.symm.trans replying
  | stop outside => exact ⟨⟨done, turn.serve_stop outside, rfl⟩, nofun⟩

/-- The reply that arrives is a response just where the request was handed over,
and nothing stays behind it. -/
theorem Connection.Turn.read (turn : c.Turn call done) {reply : Reply ρ}
    {rest : List (Reply ρ)} (next : c.toClient = reply :: rest) :
    (c.read 1).Harmless ∧ (reply.msgType = .dataResponse ↔ done = true) := by
  cases turn with
  | waiting _ _ _ unread => cases unread.symm.trans next
  | handling _ _ _ unread => cases unread.symm.trans next
  | forwarding _ _ _ unread => cases unread.symm.trans next
  | replying _ _ unread _ => cases unread.symm.trans next
  | lost _ unread => cases unread.symm.trans next
  | arrived reading unsent arrived answers =>
      cases arrived.symm.trans next
      refine ⟨.quiet reading unsent ?_, answers⟩
      rw [Connection.read, arrived]
      rfl
  | dead stopped refused =>
      refine ⟨.dead stopped fun other member =>
        refused other (List.mem_of_mem_drop member), ?_⟩
      have first : reply.msgType ≠ .dataResponse := by
        apply refused
        rw [next]
        exact List.mem_cons_self
      simp [first]
  | late stopped arrived response =>
      cases arrived.symm.trans next
      refine ⟨.dead stopped ?_, by simp [response]⟩
      intro other member
      rw [Connection.read, arrived] at member
      cases member

theorem Connection.Turn.lose (turn : c.Turn call false)
    (stopped : c.serving.ended = true) (lost : ℕ) : (c.read lost).Harmless := by
  generalize unhanded : false = done at turn
  cases turn with
  | dead stopped refused =>
      exact .dead stopped fun other member =>
        refused other (List.mem_of_mem_drop member)
  | waiting at_ _ _ _ =>
      rw [at_] at stopped
      cases stopped
  | handling at_ _ _ _ =>
      rw [at_] at stopped
      cases stopped
  | replying at_ _ _ _ =>
      rw [at_] at stopped
      cases stopped
  | arrived at_ _ _ _ =>
      rw [at_] at stopped
      cases stopped
  | forwarding _ _ _ _ => cases unhanded
  | lost _ _ => cases unhanded
  | late _ _ _ => cases unhanded

theorem Connection.Harmless.send (harmless : c.Harmless) {sending : Sending ρ}
    (own : sending.call = call) : (c.sent sending).Turn call false := by
  cases harmless with
  | quiet reading unsent unread =>
      refine .waiting reading ?_ own unread
      change c.toServer ++ [sending] = [sending]
      rw [unsent]
      rfl
  | dead stopped refused => exact .dead stopped refused

end

/-- How often a call at this point was handed over; open while it waits. -/
def settledCount : Option CallPoint → Option ℕ
  | some (.receiving _) => none
  | some (.returned _) => some 1
  | _ => some 0

section

variable {ρ : Type} {s next : Exchange ρ}

/-- The call waits for its reply on the socket in use. -/
structure Exchange.Waits (s : Exchange ρ) (call sock : ℕ) (c : Connection ρ)
    (done : Bool) : Prop where
  used : s.client.sock = some sock
  found : s.connections[sock]? = some c
  turn : c.Turn call done
  count : (s.handings call).length = done.toNat

structure Exchange.Steady (s : Exchange ρ) : Prop where
  live : ∀ sock ∈ s.client.sock, sock < s.connections.length
  harmless : ∀ index c, s.connections[index]? = some c → c.Harmless ∨
    s.client.sock = some index ∧
      ∃ call, settledCount (s.client.pointOf call) = none
  waits : ∀ call, settledCount (s.client.pointOf call) = none →
    ∃ sock c done, s.Waits call sock c done
  settled : ∀ call count, settledCount (s.client.pointOf call) = some count →
    (s.handings call).length = count

theorem Exchange.steady_start (maxRetries : ℕ) :
    (Exchange.start maxRetries : Exchange ρ).Steady where
  live := nofun
  harmless := nofun
  waits := nofun
  settled := by
    intro call count counted
    cases counted
    rfl

theorem settledCount_eq_none {point : Option CallPoint} :
    settledCount point = none ↔ ∃ n, point = some (.receiving n) := by
  unfold settledCount
  split <;> simp_all

theorem Exchange.Steady.free (steady : s.Steady) (held : Held s.client)
    (free : s.client.lock = none) :
    (∀ call, settledCount (s.client.pointOf call) ≠ none) ∧
      ∀ c ∈ s.connections, c.Harmless := by
  have nobody : ∀ call, settledCount (s.client.pointOf call) ≠ none := by
    intro call waiting
    obtain ⟨n, here⟩ := settledCount_eq_none.mp waiting
    cases held.free free here
  refine ⟨nobody, ?_⟩
  intro c member
  obtain ⟨index, found⟩ := List.mem_iff_getElem?.mp member
  rcases steady.harmless index c found with harmless | ⟨-, call, waiting⟩
  · exact harmless
  · exact absurd waiting (nobody call)

theorem Exchange.Steady.outside (steady : s.Steady)
    (sock : next.client.sock = s.client.sock)
    (connections : next.connections = s.connections)
    (handed : next.handed = s.handed)
    (points : ∀ call, settledCount (next.client.pointOf call) =
      settledCount (s.client.pointOf call)) : next.Steady where
  live := by
    rw [sock, connections]
    exact steady.live
  harmless := by
    intro index c found
    rw [connections] at found
    rw [sock]
    rcases steady.harmless index c found with harmless | ⟨used, call, waiting⟩
    · exact .inl harmless
    · exact .inr ⟨used, call, (points call).trans waiting⟩
  waits := by
    intro call waiting
    obtain ⟨socket, c, done, waits⟩ :=
      steady.waits call ((points call).symm.trans waiting)
    refine ⟨socket, c, done, sock.trans waits.used, ?_, waits.turn, ?_⟩
    · rw [connections]
      exact waits.found
    · rw [Exchange.handings, handed]
      exact waits.count
  settled := by
    intro call count counted
    rw [Exchange.handings, handed]
    exact steady.settled call count ((points call).symm.trans counted)

theorem Exchange.steady_of_still
    (live : ∀ sock ∈ next.client.sock, sock < next.connections.length)
    (harmless : ∀ c ∈ next.connections, c.Harmless)
    (handed : next.handed = s.handed)
    (points : ∀ call, ∃ count,
      settledCount (next.client.pointOf call) = some count ∧
        (s.handings call).length = count) : next.Steady where
  live := live
  harmless := fun _ c found => .inl (harmless c (List.mem_of_getElem? found))
  waits := by
    intro call waiting
    obtain ⟨count, counted, -⟩ := points call
    cases waiting.symm.trans counted
  settled := by
    intro call count counted
    obtain ⟨before, same, handings⟩ := points call
    rw [Exchange.handings, handed]
    exact handings.trans (Option.some.inj (same.symm.trans counted))

/-- With the lock free, connections come and go. -/
theorem Exchange.Steady.connect (steady : s.Steady) (held : Held s.client)
    (free : s.client.lock = none)
    (live : ∀ sock ∈ next.client.sock, sock < next.connections.length)
    (connections : ∀ c ∈ next.connections, c ∈ s.connections ∨ c.Harmless)
    (handed : next.handed = s.handed)
    (points : ∀ call, settledCount (next.client.pointOf call) =
      settledCount (s.client.pointOf call)) : next.Steady := by
  obtain ⟨nobody, harmless⟩ := steady.free held free
  refine Exchange.steady_of_still live ?_ handed ?_
  · intro c member
    rcases connections c member with old | new
    · exact harmless c old
    · exact new
  · intro call
    obtain ⟨count, counted⟩ := Option.ne_none_iff_exists'.mp (nobody call)
    exact ⟨count, (points call).trans counted,
      steady.settled call count counted⟩

theorem settledCount_goto {c : TunnelClient ρ} {call : ℕ}
    {old point : CallPoint} (here : c.pointOf call = some old)
    (same : settledCount (some point) = settledCount (some old)) (index : ℕ) :
    settledCount ((c.goto call point).pointOf index) =
      settledCount (c.pointOf index) := by
  by_cases moved : index = call
  · rw [moved, TunnelClient.pointOf_goto_of here, here, same]
  · rw [TunnelClient.pointOf_goto_ne moved]

theorem harmless_connectionsAfter {connections : List (Connection ρ)}
    {handshake : Except PyError SessionKeys} {c : Connection ρ}
    (member : c ∈ Exchange.connectionsAfter connections handshake) :
    c ∈ connections ∨ c.Harmless := by
  cases handshake with
  | error failure => exact .inl member
  | ok keys =>
      rcases List.mem_append.mp member with old | new
      · exact .inl old
      · rw [List.mem_singleton.mp new]
        exact .inr (.quiet rfl rfl rfl)

theorem live_doConnect (c : TunnelClient ρ) (connections : List (Connection ρ))
    (handshake : Except PyError SessionKeys) :
    ∀ sock ∈ (c.doConnect connections.length handshake).sock,
      sock < (Exchange.connectionsAfter connections handshake).length := by
  intro sock used
  cases handshake with
  | error failure => cases used
  | ok keys =>
      cases used
      rw [Exchange.connectionsAfter, List.length_append]
      exact Nat.lt_succ_self _

theorem Held.waits_unique {c : TunnelClient ρ} (held : Held c)
    {first second : ℕ} (waits : settledCount (c.pointOf first) = none)
    {point : CallPoint} (there : c.pointOf second = some point)
    (locked : point.locked = true) : first = second := by
  obtain ⟨n, here⟩ := settledCount_eq_none.mp waits
  have holder := held first _ here rfl
  exact Option.some.inj (holder.symm.trans (held second point there locked))

theorem Exchange.Steady.enter (steady : s.Steady) (held : Held s.client)
    {call n : ℕ} {handshake : Except PyError SessionKeys}
    (free : s.client.lock = none)
    (here : s.client.pointOf call = some (.attempt n)) :
    ({ s with
        client := s.client.enter call n s.connections.length handshake
        connections :=
          if s.client.ready then s.connections
          else Exchange.connectionsAfter s.connections handshake } :
      Exchange ρ).Steady := by
  have points : ∀ point index, settledCount (some point) = some 0 →
      settledCount (((s.client.doConnect s.connections.length handshake).goto
        call point).pointOf index) = settledCount (s.client.pointOf index) := by
    intro point index zero
    rw [TunnelClient.pointOf_doConnect_goto]
    exact settledCount_goto here zero index
  have added : ∀ c ∈ Exchange.connectionsAfter s.connections handshake,
      c ∈ s.connections ∨ c.Harmless :=
    fun c member => harmless_connectionsAfter member
  unfold TunnelClient.enter
  by_cases ready : s.client.ready = true
  · rw [if_pos ready, if_pos ready]
    exact steady.outside rfl rfl rfl (settledCount_goto here rfl)
  · rw [if_neg ready, if_neg ready]
    cases handshake with
    | ok keys =>
        exact steady.connect held free (live_doConnect s.client _ (.ok keys))
          added rfl fun index => points _ index rfl
    | error failure =>
        exact steady.connect held free
          (live_doConnect s.client _ (.error failure)) added rfl
          fun index => points _ index rfl

theorem Exchange.Steady.send (steady : s.Steady) (held : Held s.client)
    {call n thread sock : ℕ} {request : ρ}
    (here : s.client.calls[call]? =
      some { thread, request, point := .sending n })
    (open_ : s.client.sock = some sock) :
    ({ s with client := s.client.goto call (.receiving n) }.atConnection sock
      (·.sent { call, attempt := n, thread, request })).Steady := by
  have at_ : s.client.pointOf call = some (.sending n) := by
    rw [TunnelClient.pointOf, here]
    rfl
  have nobody : ∀ other, settledCount (s.client.pointOf other) ≠ none := by
    intro other waiting
    obtain rfl := held.waits_unique waiting at_ rfl
    rw [at_] at waiting
    cases waiting
  have harmless : ∀ (index : ℕ) (c : Connection ρ),
      s.connections[index]? = some c → c.Harmless := by
    intro index c found
    rcases steady.harmless index c found with harmless | ⟨-, other, waiting⟩
    · exact harmless
    · exact absurd waiting (nobody other)
  obtain ⟨c, found⟩ : ∃ c, s.connections[sock]? = some c :=
    ⟨_, List.getElem?_eq_getElem (steady.live sock open_)⟩
  exact
    { live := by
        intro other used
        change other < (s.connections.modify sock _).length
        rw [List.length_modify]
        exact steady.live other used
      harmless := by
        intro index other there
        change (s.connections.modify sock _)[index]? = some other at there
        by_cases same : sock = index
        · subst same
          refine .inr ⟨open_, call, ?_⟩
          rw [settledCount_eq_none]
          exact ⟨n, TunnelClient.pointOf_goto_of at_⟩
        · rw [List.getElem?_modify_ne _ _ same] at there
          exact .inl (harmless index other there)
      waits := by
        intro other waiting
        by_cases same : other = call
        · subst same
          refine ⟨sock, c.sent { call := other, attempt := n, thread, request },
            false, open_, ?_, (harmless sock c found).send rfl, ?_⟩
          · change (s.connections.modify sock _)[sock]? = _
            rw [List.getElem?_modify_eq, found]
            rfl
          · exact steady.settled other 0 (by rw [at_]; rfl)
        · change settledCount ((s.client.goto call _).pointOf other) = none
            at waiting
          rw [TunnelClient.pointOf_goto_ne same] at waiting
          exact absurd waiting (nobody other)
      settled := by
        intro other count counted
        change settledCount ((s.client.goto call _).pointOf other) = some count
          at counted
        by_cases same : other = call
        · subst same
          rw [TunnelClient.pointOf_goto_of at_] at counted
          cases counted
        · rw [TunnelClient.pointOf_goto_ne same] at counted
          exact steady.settled other count counted }

theorem Exchange.Steady.read (steady : s.Steady) (held : Held s.client)
    {call n sock count : ℕ} {c : Connection ρ} {point : CallPoint}
    (here : s.client.pointOf call = some (.receiving n))
    (open_ : s.client.sock = some sock) (found : s.connections[sock]? = some c)
    (harmless : (c.read count).Harmless)
    (points : ∀ index, next.client.pointOf index =
      (s.client.goto call point).pointOf index)
    (settles : settledCount (some point) = some (s.handings call).length)
    (used : next.client.sock = s.client.sock)
    (connections : next.connections = s.connections.modify sock (·.read count))
    (handed : next.handed = s.handed) : next.Steady := by
  refine Exchange.steady_of_still ?_ ?_ handed ?_
  · rw [used, connections, List.length_modify]
    exact steady.live
  · intro other member
    rw [connections] at member
    obtain ⟨index, there⟩ := List.mem_iff_getElem?.mp member
    by_cases same : sock = index
    · subst same
      rw [List.getElem?_modify_eq, found] at there
      cases there
      exact harmless
    · rw [List.getElem?_modify_ne _ _ same] at there
      rcases steady.harmless index other there with harmless | ⟨inUse, -⟩
      · exact harmless
      · exact absurd (Option.some.inj (open_.symm.trans inUse)) same
  · intro other
    rw [points]
    by_cases same : other = call
    · subst same
      rw [TunnelClient.pointOf_goto_of here]
      exact ⟨_, settles, rfl⟩
    · rw [TunnelClient.pointOf_goto_ne same]
      cases counted : settledCount (s.client.pointOf other) with
      | none => exact absurd (held.waits_unique counted here rfl) same
      | some count => exact ⟨count, rfl, steady.settled other count counted⟩

theorem handings_append {handed : List (Sending ρ)}
    (given : next.handed = s.handed ++ handed) (call : ℕ) :
    next.handings call =
      s.handings call ++ handed.filter fun sending => sending.call = call := by
  rw [Exchange.handings, given, List.filter_append]
  rfl

theorem Exchange.Steady.serve_idle (steady : s.Steady) {index : ℕ}
    {c c' : Connection ρ} {handed : List (Sending ρ)}
    {forwardings : List (Forwarding ρ)} (found : s.connections[index]? = some c)
    (move : ServerMove c c' handed forwardings)
    (idle : ¬ (s.client.sock = some index ∧
      ∃ call, settledCount (s.client.pointOf call) = none)) :
    ({ s with
        connections := s.connections.set index c'
        handed := s.handed ++ handed
        forwarded := s.forwarded ++ forwardings } : Exchange ρ).Steady := by
  have before : c.Harmless := by
    rcases steady.harmless index c found with harmless | waiting
    · exact harmless
    · exact absurd waiting idle
  obtain ⟨after, rfl⟩ := before.serve move
  rw [List.append_nil]
  exact
    { live := by
        rw [List.length_set]
        exact steady.live
      harmless := by
        intro other d there
        change (s.connections.set index c')[other]? = some d at there
        by_cases same : index = other
        · subst same
          rw [List.getElem?_set_self (List.getElem?_eq_some_iff.mp found).1]
            at there
          cases there
          exact .inl after
        · rw [List.getElem?_set_ne same] at there
          exact steady.harmless other d there
      waits := by
        intro call waiting
        obtain ⟨sock, d, done, waits⟩ := steady.waits call waiting
        have different : index ≠ sock := by
          rintro rfl
          exact idle ⟨waits.used, call, waiting⟩
        refine ⟨sock, d, done, waits.used, ?_, waits.turn, waits.count⟩
        change (s.connections.set index c')[sock]? = some d
        rw [List.getElem?_set_ne different]
        exact waits.found
      settled := steady.settled }

theorem Exchange.Steady.serve_turn (steady : s.Steady) (held : Held s.client)
    {index call : ℕ} {c c' : Connection ρ} {handed : List (Sending ρ)}
    {forwardings : List (Forwarding ρ)} (found : s.connections[index]? = some c)
    (move : ServerMove c c' handed forwardings)
    (used : s.client.sock = some index)
    (waiting : settledCount (s.client.pointOf call) = none) :
    ({ s with
        connections := s.connections.set index c'
        handed := s.handed ++ handed
        forwarded := s.forwarded ++ forwardings } : Exchange ρ).Steady := by
  obtain ⟨sock, d, done, waits⟩ := steady.waits call waiting
  obtain rfl := Option.some.inj (used.symm.trans waits.used)
  obtain rfl := Option.some.inj (found.symm.trans waits.found)
  obtain ⟨⟨after, turn, count⟩, own⟩ := waits.turn.serve move
  obtain ⟨n, here⟩ := settledCount_eq_none.mp waiting
  have given : ∀ other, (s.handed ++ handed).filter (fun sending =>
      sending.call = other) =
        s.handings other ++ handed.filter fun sending => sending.call = other :=
    fun other => List.filter_append s.handed handed
  exact
    { live := by
        rw [List.length_set]
        exact steady.live
      harmless := by
        intro other d there
        change (s.connections.set index c')[other]? = some d at there
        by_cases same : index = other
        · subst same
          exact .inr ⟨used, call, waiting⟩
        · rw [List.getElem?_set_ne same] at there
          exact steady.harmless other d there
      waits := by
        intro other waitsToo
        obtain rfl := held.waits_unique waitsToo here rfl
        refine ⟨index, c', after, used, ?_, turn, ?_⟩
        · exact List.getElem?_set_self (List.getElem?_eq_some_iff.mp found).1
        · rw [Exchange.handings, given, List.length_append, waits.count, count,
            List.filter_eq_self.mpr]
          intro sending member
          exact decide_eq_true (own sending member)
      settled := by
        intro other total counted
        have different : call ≠ other := by
          rintro rfl
          cases waiting.symm.trans counted
        rw [Exchange.handings, given, List.filter_eq_nil_iff.mpr, List.append_nil]
        · exact steady.settled other total counted
        · intro sending member same
          exact different
            ((own sending member).symm.trans (of_decide_eq_true same)) }

theorem Exchange.Steady.step {event : ExchangeEvent ρ} (steady : s.Steady)
    (held : Held s.client) (guarded : LossBeforeHandling s event)
    (move : ExchangeMove s event next) : next.Steady := by
  cases move with
  | @sendRequest thread request point single first =>
      refine steady.outside rfl rfl rfl ?_
      intro call
      rcases pointOf_append_cases s.client { thread, request, point } call with
        same | ⟨new, added⟩
      · exact congrArg settledCount same
      · refine (congrArg settledCount added).trans ?_
        change settledCount (some point) = _
        rw [new, first]
        split <;> rfl
  | enter free here => exact steady.enter held free here
  | send here open_ => exact steady.send held here open_
  | sendFault here =>
      exact steady.outside rfl rfl rfl (settledCount_goto here rfl)
  | @receive call n sock c reply rest here open_ found next =>
      obtain ⟨socket, d, done, waits⟩ :=
        steady.waits call (settledCount_eq_none.mpr ⟨n, here⟩)
      obtain rfl := Option.some.inj (open_.symm.trans waits.used)
      obtain rfl := Option.some.inj (found.symm.trans waits.found)
      obtain ⟨harmless, answers⟩ := waits.turn.read next
      refine steady.read held here open_ found harmless (fun _ => rfl) ?_ rfl rfl rfl
      rw [waits.count]
      cases read : readReply reply.msgType reply.payload with
      | ok response =>
          have response := answers.mp (readReply_eq_ok.mp read).1
          simp only [Except.bind, read]
          rw [response]
          rfl
      | error failure =>
          have refused : done = false := by
            cases done with
            | false => rfl
            | true =>
                have same : readReply reply.msgType reply.payload =
                    .ok reply.payload :=
                  readReply_eq_ok.mpr ⟨answers.mpr rfl, rfl⟩
                cases read.symm.trans same
          simp only [Except.bind, read]
          rw [refused]
          rfl
  | @receiveFault call n sock failure lost here open_ =>
      obtain ⟨socket, c, done, waits⟩ :=
        steady.waits call (settledCount_eq_none.mpr ⟨n, here⟩)
      obtain rfl := Option.some.inj (open_.symm.trans waits.used)
      obtain ⟨unhanded, ended⟩ := guarded
      have notDone : done = false := by
        have count := waits.count
        rw [unhanded] at count
        cases done with
        | false => rfl
        | true => cases count
      subst notDone
      have harmless := waits.turn.lose (ended sock open_ c waits.found) lost
      refine steady.read held here open_ waits.found harmless (fun _ => rfl) ?_
        rfl rfl rfl
      rw [unhanded]
      rfl
  | @reconnect call n lastErr handshake free here =>
      refine steady.connect held free (live_doConnect _ _ handshake)
        (fun c member => harmless_connectionsAfter member) rfl ?_
      intro index
      change settledCount (((s.client.doConnect _ _).goto call _).pointOf _) = _
      rw [TunnelClient.pointOf_doConnect_goto]
      apply settledCount_goto here
      rfl
  | nextAttempt here =>
      refine steady.outside rfl rfl rfl (settledCount_goto here ?_)
      split <;> rfl
  | @connect handshake free =>
      refine steady.connect held free (live_doConnect _ _ handshake)
        (fun c member => harmless_connectionsAfter member) rfl ?_
      intro index
      change settledCount ((s.client.doConnect _ _).pointOf _) = _
      rw [TunnelClient.pointOf_of_calls (TunnelClient.doConnect_calls _ _)]
  | close free =>
      exact steady.connect held free nofun (fun c member => .inl member) rfl
        fun _ => rfl
  | @server event index c c' handed forwardings here given answered found move =>
      by_cases turn : s.client.sock = some index ∧
          ∃ call, settledCount (s.client.pointOf call) = none
      · obtain ⟨used, call, waiting⟩ := turn
        exact steady.serve_turn held found move used waiting
      · exact steady.serve_idle found move turn

/-- A server thread with a request is the one that the waiting call is served by. -/
theorem Exchange.Steady.busy (steady : s.Steady) {index : ℕ} {c : Connection ρ}
    (found : s.connections[index]? = some c) (reading : c.serving ≠ .reading)
    (running : c.serving ≠ .stopped) :
    s.client.sock = some index ∧
      ∃ call, settledCount (s.client.pointOf call) = none := by
  rcases steady.harmless index c found with harmless | waiting
  · rcases harmless.idle with idle | idle
    · exact absurd idle reading
    · exact absurd idle running
  · exact waiting

/-- A request is handled for the call that waits, and was not handed over. -/
theorem Exchange.Steady.handling (steady : s.Steady) {index : ℕ}
    {c : Connection ρ} {sending : Sending ρ}
    (found : s.connections[index]? = some c)
    (handling : c.serving = .handling sending) :
    s.client.sock = some index ∧ s.handings sending.call = [] ∧
      ∃ n, s.client.pointOf sending.call = some (.receiving n) := by
  obtain ⟨used, call, waiting⟩ := steady.busy found
    (by rw [handling]; exact nofun) (by rw [handling]; exact nofun)
  obtain ⟨sock, d, done, waits⟩ := steady.waits call waiting
  obtain rfl := Option.some.inj (used.symm.trans waits.used)
  obtain rfl := Option.some.inj (found.symm.trans waits.found)
  refine ⟨used, ?_⟩
  have turn := waits.turn
  have count := waits.count
  cases turn with
  | handling at_ unsent own unread =>
      cases at_.symm.trans handling
      rw [own]
      exact ⟨List.eq_nil_of_length_eq_zero count, settledCount_eq_none.mp waiting⟩
  | waiting at_ _ _ _ => cases at_.symm.trans handling
  | forwarding at_ _ _ _ => cases at_.symm.trans handling
  | replying at_ _ _ _ => cases at_.symm.trans handling
  | arrived at_ _ _ _ => cases at_.symm.trans handling
  | dead at_ _ => cases at_.symm.trans handling
  | lost at_ _ => cases at_.symm.trans handling
  | late at_ _ _ => cases at_.symm.trans handling

/-- While a request is handled, `forward_request` is not running. -/
theorem Exchange.Steady.not_forwarding (steady : s.Steady) {index other : ℕ}
    {c d : Connection ρ} {sending inside : Sending ρ}
    (found : s.connections[index]? = some c)
    (handling : c.serving = .handling sending)
    (there : s.connections[other]? = some d) :
    d.serving ≠ .forwarding inside := by
  intro forwarding
  have first := (steady.handling found handling).1
  have second := (steady.busy there (by rw [forwarding]; exact nofun)
    (by rw [forwarding]; exact nofun)).1
  obtain rfl := Option.some.inj (first.symm.trans second)
  obtain rfl := Option.some.inj (found.symm.trans there)
  cases handling.symm.trans forwarding

theorem Exchange.Steady.handings_le (steady : s.Steady) (call : ℕ) :
    (s.handings call).length ≤ 1 := by
  cases counted : settledCount (s.client.pointOf call) with
  | none =>
      obtain ⟨sock, c, done, waits⟩ := steady.waits call counted
      rw [waits.count]
      exact Bool.toNat_le done
  | some count =>
      rw [steady.settled call count counted]
      unfold settledCount at counted
      split at counted <;> cases counted <;> simp

end

end VpnTunnel.Tunnel
