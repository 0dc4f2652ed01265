import VpnTunnel.Tunnel.AtMostOnce
import VpnTunnel.Tunnel.BrowserRelay
import VpnTunnel.Tunnel.OwnReply

namespace VpnTunnel.Tunnel

open VpnTunnel.Crypto
open VpnTunnel.Client
open VpnTunnel.Server
open VpnTunnel.Foundation

/-! What a target gets from the one browser that has a CONNECT session to it. -/

/-- What the request asks of the target, if anything. -/
def JsonLoads.dispatchOn (loads : JsonLoads) (target : String)
    (request : Bytes) : Option Dispatch :=
  ((loads.request request).map CanonicalRequest.dispatch).filter fun dispatch =>
    dispatch.target = some target

namespace BrowserLoop

/-- What the latest `send_request` of the loop asks. -/
def last (loop : BrowserLoop) : Dispatch :=
  match loop.chunks.getLast? with
  | none => .connect loop.target
  | some data => .relay loop.target data

def sent (loop : BrowserLoop) : List Dispatch :=
  .connect loop.target :: loop.chunks.map (.relay loop.target)

end BrowserLoop

/-- What was handed over for the target. -/
def Exchange.handedOn (s : Exchange Bytes) (loads : JsonLoads)
    (target : String) : List Dispatch :=
  s.handed.filterMap fun sending => loads.dispatchOn target sending.request

section

variable {loads : JsonLoads} {target : String} {request : Bytes}
  {canonical : CanonicalRequest} {dispatch : Dispatch}

theorem dispatchOn_of_loaded (target : String)
    (loaded : loads.request request = some canonical) :
    loads.dispatchOn target request =
      if canonical.dispatch.target = some target then
        some canonical.dispatch
      else none := by
  rw [JsonLoads.dispatchOn, loaded, Option.map_some, Option.filter_some]
  by_cases own : canonical.dispatch.target = some target
  · simp [own]
  · simp [own]

theorem BrowserLoop.sent_data (loop : BrowserLoop) :
    (loop.sent.map Dispatch.data).flatten = loop.chunks.flatten := by
  rw [BrowserLoop.sent, List.map_cons, List.map_map, List.flatten_cons]
  change [] ++ (loop.chunks.map id).flatten = _
  rw [List.map_id, List.nil_append]

end

/-! What the tunnel's own steps leave alone. -/

section

variable {ρ : Type} {s next : Exchange ρ} {event : ExchangeEvent ρ}

theorem ExchangeMove.of_sendRequest {thread : ℕ} {request : ρ}
    (move : ExchangeMove s (.sendRequest thread request) next) :
    ∃ point, next = { s with
      client := { s.client with
        calls := s.client.calls ++ [{ thread, request, point }] } } := by
  cases move with
  | sendRequest single first => exact ⟨_, rfl⟩
  | server here given answered found move => cases here

theorem ExchangeMove.length_calls (move : ExchangeMove s event next)
    (old : Proxied.isSendRequest event = false) :
    next.client.calls.length = s.client.calls.length := by
  have goto : ∀ (c : TunnelClient ρ) call point,
      (c.goto call point).calls.length = c.calls.length :=
    fun c call point => List.length_modify _ _ _
  cases move with
  | sendRequest single first => cases old
  | @enter call n handshake free here =>
      change (s.client.enter call n _ handshake).calls.length = _
      unfold TunnelClient.enter
      split
      · exact goto _ _ _
      · split
        · exact (goto _ _ _).trans
            (congrArg List.length (TunnelClient.doConnect_calls _ _))
        · exact (goto _ _ _).trans
            (congrArg List.length (TunnelClient.doConnect_calls _ _))
  | send here open_ => exact goto _ _ _
  | sendFault here => exact goto _ _ _
  | receive here open_ found next => exact goto _ _ _
  | receiveFault here open_ => exact goto _ _ _
  | reconnect free here =>
      exact (goto _ _ _).trans
        (congrArg List.length (TunnelClient.doConnect_calls _ _))
  | nextAttempt here => exact goto _ _ _
  | connect free =>
      exact congrArg List.length (TunnelClient.doConnect_calls _ _)
  | close free => rfl
  | server here given answered found move => rfl

theorem ExchangeMove.handed_of_ne (move : ExchangeMove s event next)
    (other : ∀ index, event ≠ .serverForward index) :
    next.handed = s.handed := by
  cases move with
  | server here given answered found move =>
      rcases given with rfl | same
      · exact List.append_nil _
      · exact absurd same (other _)
  | _ => rfl

theorem ExchangeMove.returned (move : ExchangeMove s event next) {call : ℕ}
    {response : Bytes}
    (here : s.client.pointOf call = some (.returned response)) :
    next.client.pointOf call = some (.returned response) := by
  have stepped := move.points call
  rw [here] at stepped
  generalize next.client.pointOf call = after at stepped ⊢
  cases stepped with
  | same => rfl
  | move moved => cases moved

theorem ExchangeMove.forwarding (move : ExchangeMove s event next) {index : ℕ}
    {c : Connection ρ} {sending : Sending ρ}
    (found : s.connections[index]? = some c)
    (inside : c.serving = .forwarding sending)
    (other : ∀ response, event ≠ .serverForwarded index response) :
    ∃ c', next.connections[index]? = some c' ∧
      c'.serving = .forwarding sending := by
  have modified : ∀ (sock : ℕ) (change : Connection ρ → Connection ρ),
      (∀ d, (change d).serving = d.serving) →
      ∃ c', (s.connections.modify sock change)[index]? = some c' ∧
        c'.serving = .forwarding sending := by
    intro sock change same
    rw [List.getElem?_modify, found]
    by_cases here : sock = index
    · exact ⟨change c, by simp [here], (same c).trans inside⟩
    · exact ⟨c, by simp [here], inside⟩
  have added : ∀ handshake,
      (Exchange.connectionsAfter s.connections handshake)[index]? = some c := by
    intro handshake
    cases handshake with
    | error failure => exact found
    | ok keys =>
        rw [Exchange.connectionsAfter, List.getElem?_append_left
          (List.getElem?_eq_some_iff.mp found).1]
        exact found
  cases move with
  | sendRequest single first => exact ⟨c, found, inside⟩
  | enter free here =>
      refine ⟨c, ?_, inside⟩
      dsimp only
      split
      · exact found
      · exact added _
  | send here open_ => exact modified _ _ fun _ => rfl
  | sendFault here => exact ⟨c, found, inside⟩
  | receive here open_ found next => exact modified _ _ fun _ => rfl
  | receiveFault here open_ => exact modified _ _ fun _ => rfl
  | reconnect free here => exact ⟨c, added _, inside⟩
  | nextAttempt here => exact ⟨c, found, inside⟩
  | connect free => exact ⟨c, added _, inside⟩
  | close free => exact ⟨c, found, inside⟩
  | @server _ place d d' handed forwardings here given answered at_ move =>
      change ∃ c', (s.connections.set place d')[index]? = some c' ∧ _
      by_cases same : place = index
      · subst same
        obtain rfl := Option.some.inj (found.symm.trans at_)
        cases move with
        | receive reading next => cases inside.symm.trans reading
        | forward handling => cases inside.symm.trans handling
        | refuse handling => cases inside.symm.trans handling
        | reply replying => cases inside.symm.trans replying
        | stop outside => exact absurd inside (outside _)
        | forwarded response forwarding =>
            rcases answered with nothing | ⟨response, same⟩
            · cases nothing
            · exact absurd same (other response)
      · rw [List.getElem?_set_ne same]
        exact ⟨c, found, inside⟩

end

/-! The requests of one browser connection. -/

namespace Proxied

/-- What was handed over for the target are the requests of the loop so far, up
to the latest one. -/
structure OnLoop (loads : JsonLoads) (target : String) (s : Proxied)
    (loop : BrowserLoop) : Prop where
  latest : ∃ call, s.exchange.client.calls[loop.call]? = some call ∧
    loads.dispatchOn target call.request = some loop.last
  others : ∀ index call, s.exchange.client.calls[index]? = some call →
    loads.dispatchOn target call.request ≠ none →
      index = loop.call ∨ ∃ response, call.point = .returned response
  handed : s.exchange.handedOn loads target ++
    (if s.exchange.handings loop.call = [] then [loop.last] else []) = loop.sent

inductive Browsing (loads : JsonLoads) (target : String) (s : Proxied) : Prop
  | nobody
      (absent : ∀ thread loop, s.loops.lookup thread = some loop →
        loop.target ≠ target)
      (unused : ∀ call ∈ s.exchange.client.calls,
        loads.dispatchOn target call.request = none)
  | one {thread : ℕ} {loop : BrowserLoop}
      (here : s.loops.lookup thread = some loop) (own : loop.target = target)
      (alone : ∀ thread' loop', s.loops.lookup thread' = some loop' →
        loop'.target = target → thread' = thread)
      (on : s.OnLoop loads target loop)

section

variable {loads : JsonLoads} {target : String} {s next : Proxied}
  {loop : BrowserLoop}

theorem handedOn_congr
    (handed : next.exchange.handed = s.exchange.handed) :
    next.exchange.handedOn loads target = s.exchange.handedOn loads target := by
  rw [Exchange.handedOn, handed, Exchange.handedOn]

theorem handings_congr (handed : next.exchange.handed = s.exchange.handed)
    (call : ℕ) : next.exchange.handings call = s.exchange.handings call := by
  rw [Exchange.handings, handed, Exchange.handings]

theorem call_of_old {inner : ExchangeEvent Bytes}
    (move : ExchangeMove s.exchange inner next.exchange)
    (old : isSendRequest inner = false) {index : ℕ} {call : Call Bytes}
    (found : next.exchange.client.calls[index]? = some call) :
    ∃ before, s.exchange.client.calls[index]? = some before ∧
      before.request = call.request ∧
        ∀ response, before.point = .returned response →
          call.point = .returned response := by
  have bound := (List.getElem?_eq_some_iff.mp found).1
  rw [move.length_calls old] at bound
  obtain ⟨before, here⟩ : ∃ before,
      s.exchange.client.calls[index]? = some before :=
    ⟨_, List.getElem?_eq_getElem bound⟩
  obtain ⟨point, kept⟩ := move.keeps index before here
  obtain rfl := Option.some.inj (found.symm.trans kept)
  refine ⟨before, here, rfl, ?_⟩
  intro response returned
  have at_ : s.exchange.client.pointOf index = some (.returned response) := by
    rw [TunnelClient.pointOf, here, ← returned]
    rfl
  have stays := move.returned at_
  rw [TunnelClient.pointOf, kept] at stays
  exact Option.some.inj stays

theorem Browsing.keep {inner : ExchangeEvent Bytes}
    (browsing : s.Browsing loads target)
    (move : ExchangeMove s.exchange inner next.exchange)
    (old : isSendRequest inner = false) (loops : next.loops = s.loops)
    (handed : next.exchange.handed = s.exchange.handed) :
    next.Browsing loads target := by
  cases browsing with
  | nobody absent unused =>
      refine .nobody (by rw [loops]; exact absent) ?_
      intro call member
      obtain ⟨index, found⟩ := List.mem_iff_getElem?.mp member
      obtain ⟨before, here, same, -⟩ := call_of_old move old found
      rw [← same]
      exact unused before (List.mem_of_getElem? here)
  | one here own alone on =>
      refine .one (by rw [loops]; exact here) own (by rw [loops]; exact alone) ?_
      exact
        { latest := by
            obtain ⟨call, found, asks⟩ := on.latest
            obtain ⟨point, kept⟩ := move.keeps _ call found
            exact ⟨_, kept, asks⟩
          others := by
            intro index call found asks
            obtain ⟨before, there, same, stays⟩ := call_of_old move old found
            rw [← same] at asks
            rcases on.others index before there asks with latest | ⟨response, done⟩
            · exact .inl latest
            · exact .inr ⟨response, stays response done⟩
          handed := by
            rw [handedOn_congr handed, handings_congr handed]
            exact on.handed }

theorem Browsing.aside {call : Call Bytes} (browsing : s.Browsing loads target)
    (calls : next.exchange.client.calls = s.exchange.client.calls ++ [call])
    (plain : loads.dispatchOn target call.request = none)
    (loops : ∀ thread loop, loop.target = target →
      (next.loops.lookup thread = some loop ↔ s.loops.lookup thread = some loop))
    (handed : next.exchange.handed = s.exchange.handed) :
    next.Browsing loads target := by
  cases browsing with
  | nobody absent unused =>
      refine .nobody ?_ ?_
      · intro thread loop here own
        exact absent thread loop ((loops thread loop own).mp here) own
      · intro other member
        rw [calls] at member
        rcases List.mem_append.mp member with old | new
        · exact unused other old
        · rw [List.mem_singleton.mp new]
          exact plain
  | @one thread loop here own alone on =>
      refine .one ((loops thread loop own).mpr here) own ?_ ?_
      · intro thread' loop' there also
        exact alone thread' loop' ((loops thread' loop' also).mp there) also
      · exact
          { latest := by
              obtain ⟨latest, found, asks⟩ := on.latest
              refine ⟨latest, ?_, asks⟩
              rw [calls, List.getElem?_append_left
                (List.getElem?_eq_some_iff.mp found).1]
              exact found
            others := by
              intro index other found asks
              rw [calls] at found
              rcases Nat.lt_or_ge index s.exchange.client.calls.length with
                old | new
              · rw [List.getElem?_append_left old] at found
                exact on.others index other found asks
              · rw [List.getElem?_append_right new] at found
                rw [List.mem_singleton.mp (List.mem_of_getElem? found)] at asks
                exact absurd plain asks
            handed := by
              rw [handedOn_congr handed, handings_congr handed]
              exact on.handed }

theorem handings_new (steady : s.exchange.Steady) :
    s.exchange.handings s.exchange.client.calls.length = [] := by
  apply List.eq_nil_of_length_eq_zero
  apply steady.settled
  rw [TunnelClient.pointOf, List.getElem?_eq_none (Nat.le_refl _)]
  rfl

/-- The loop starts, on a target that nobody uses. -/
theorem OnLoop.connect {call : Call Bytes} (steady : s.exchange.Steady)
    (recorded : s.exchange.Recorded)
    (unused : ∀ call ∈ s.exchange.client.calls,
      loads.dispatchOn target call.request = none)
    (calls : next.exchange.client.calls = s.exchange.client.calls ++ [call])
    (asks : loads.dispatchOn target call.request = some (.connect target))
    (handed : next.exchange.handed = s.exchange.handed) :
    next.OnLoop loads target
      { target, chunks := [], call := s.exchange.client.calls.length } where
  latest := by
    refine ⟨call, ?_, asks⟩
    rw [calls]
    exact List.getElem?_concat_length
  others := by
    intro index other found about
    rw [calls] at found
    rcases Nat.lt_trichotomy index s.exchange.client.calls.length with
      old | same | beyond
    · rw [List.getElem?_append_left old] at found
      exact absurd (unused other (List.mem_of_getElem? found)) about
    · exact .inl same
    · rw [List.getElem?_eq_none (by rw [List.length_append]; exact beyond)]
        at found
      cases found
  handed := by
    have nothing : s.exchange.handedOn loads target = [] := by
      apply List.filterMap_eq_nil_iff.mpr
      intro sending member
      obtain ⟨point, made⟩ := recorded.handed sending member
      exact unused _ (List.mem_of_getElem? made)
    rw [handedOn_congr handed, handings_congr handed, nothing,
      if_pos (handings_new steady)]
    rfl

theorem last_concat (loop : BrowserLoop) (data : Bytes) (call : ℕ) :
    ({ loop with chunks := loop.chunks ++ [data], call } : BrowserLoop).last =
      .relay loop.target data := by
  rw [BrowserLoop.last, List.getLast?_concat]

theorem sent_concat (loop : BrowserLoop) (data : Bytes) (call : ℕ) :
    ({ loop with chunks := loop.chunks ++ [data], call } : BrowserLoop).sent =
      loop.sent ++ [.relay loop.target data] := by
  rw [BrowserLoop.sent, List.map_append, BrowserLoop.sent]
  rfl

/-- The next chunk is relayed when the latest request was answered. -/
theorem OnLoop.chunk {call : Call Bytes} {data response : Bytes}
    (on : s.OnLoop loads target loop) (steady : s.exchange.Steady)
    (returned : s.exchange.client.pointOf loop.call = some (.returned response))
    (calls : next.exchange.client.calls = s.exchange.client.calls ++ [call])
    (asks : loads.dispatchOn target call.request =
      some (.relay loop.target data))
    (handed : next.exchange.handed = s.exchange.handed) :
    next.OnLoop loads target { loop with
      chunks := loop.chunks ++ [data]
      call := s.exchange.client.calls.length } where
  latest := by
    refine ⟨call, ?_, ?_⟩
    · rw [calls]
      exact List.getElem?_concat_length
    · rw [last_concat]
      exact asks
  others := by
    intro index other found about
    rw [calls] at found
    rcases Nat.lt_trichotomy index s.exchange.client.calls.length with
      old | same | beyond
    · right
      rw [List.getElem?_append_left old] at found
      rcases on.others index other found about with rfl | done
      · rw [TunnelClient.pointOf, found] at returned
        exact ⟨response, Option.some.inj returned⟩
      · exact done
    · exact .inl same
    · rw [List.getElem?_eq_none (by rw [List.length_append]; exact beyond)]
        at found
      cases found
  handed := by
    have answered : s.exchange.handings loop.call ≠ [] := by
      intro nothing
      have count := steady.settled loop.call 1 (by rw [returned]; rfl)
      rw [nothing] at count
      cases count
    have sofar := on.handed
    rw [if_neg answered, List.append_nil] at sofar
    rw [handedOn_congr handed, handings_congr handed,
      if_pos (handings_new steady), sofar, last_concat, sent_concat]

theorem handedOn_concat (loads : JsonLoads) (target : String)
    {sending : Sending Bytes}
    (handed : next.exchange.handed = s.exchange.handed ++ [sending]) :
    next.exchange.handedOn loads target =
      s.exchange.handedOn loads target ++
        (loads.dispatchOn target sending.request).toList := by
  rw [Exchange.handedOn, handed]
  exact Forwarder.filterMap_concat _ _ _

/-- The request that is handed over is the latest one of the loop, or not about
the target. -/
theorem Browsing.forward {sending : Sending Bytes}
    (browsing : s.Browsing loads target)
    (handed : next.exchange.handed = s.exchange.handed ++ [sending])
    (calls : next.exchange.client.calls = s.exchange.client.calls)
    (loops : next.loops = s.loops) (made : s.exchange.Made sending)
    {n : ℕ} (waits : s.exchange.client.pointOf sending.call =
      some (.receiving n))
    (first : s.exchange.handings sending.call = []) :
    next.Browsing loads target := by
  obtain ⟨point, found⟩ := made
  have waiting : point = .receiving n := by
    rw [TunnelClient.pointOf, found] at waits
    exact Option.some.inj waits
  have handedOn := handedOn_concat loads target handed
  cases browsing with
  | nobody absent unused =>
      exact .nobody (by rw [loops]; exact absent) (by rw [calls]; exact unused)
  | @one thread loop here own alone on =>
      refine .one (by rw [loops]; exact here) own (by rw [loops]; exact alone) ?_
      obtain ⟨latest, at_, asks⟩ := on.latest
      refine
        { latest := ⟨latest, by rw [calls]; exact at_, asks⟩
          others := by rw [calls]; exact on.others
          handed := ?_ }
      have handings := handings_append handed loop.call
      by_cases ours : sending.call = loop.call
      · -- the latest request goes over now
        rw [ours, at_] at found
        obtain rfl := Option.some.inj found
        have sofar := on.handed
        rw [← ours, if_pos first] at sofar
        have some_ : next.exchange.handings loop.call ≠ [] := by
          rw [handings]
          simp [ours]
        rw [if_neg some_, List.append_nil, handedOn, ← sofar]
        exact congrArg _ (congrArg Option.toList asks)
      · -- some other request, which is not about the target
        have plain : loads.dispatchOn target sending.request = none := by
          by_contra about
          rcases on.others _ _ found about with same | ⟨response, done⟩
          · exact ours same
          · rw [waiting] at done
            cases done
        rw [handedOn, plain, handings]
        simpa [ours] using on.handed

end

/-- `recv_frame` of the tunnel fails only before its request is handed over. -/
def LossBeforeHandling (s : Proxied) : ProxiedEvent → Prop
  | .tunnel event => Tunnel.LossBeforeHandling s.exchange event
  | _ => True

/-- Only one browser connection has a CONNECT session to the target, and nobody
else asks anything of it. -/
def OneBrowser (loads : JsonLoads) (target : String) (s : Proxied) :
    ProxiedEvent → Prop
  | .connect _ host _ =>
      host = target → ∀ entry ∈ s.loops.entries, entry.2.target ≠ target
  | .other _ request => loads.dispatchOn target request = none
  | _ => True

instance (s : Proxied) (event : ProxiedEvent) :
    Decidable (s.LossBeforeHandling event) :=
  match event with
  | .tunnel event => inferInstanceAs
      (Decidable (Tunnel.LossBeforeHandling s.exchange event))
  | .connect _ _ _ | .chunk _ _ _ | .other _ _ | .forward _ | .relay _
  | .forwarded _ _ => inferInstanceAs (Decidable True)

instance (loads : JsonLoads) (target : String) (s : Proxied)
    (event : ProxiedEvent) : Decidable (OneBrowser loads target s event) :=
  match event with
  | .connect _ host _ => inferInstanceAs (Decidable (host = target →
      ∀ entry ∈ s.loops.entries, entry.2.target ≠ target))
  | .other _ request => inferInstanceAs
      (Decidable (loads.dispatchOn target request = none))
  | .chunk _ _ _ | .tunnel _ | .forward _ | .relay _ | .forwarded _ _ =>
      inferInstanceAs (Decidable True)

/-- The tunnel, the forwarder and the loops agree on what the target is asked. -/
structure Linked (loads : JsonLoads) (target : String) (s : Proxied) : Prop where
  recorded : s.exchange.Recorded
  held : Held s.exchange.client
  steady : s.exchange.Steady
  targeted : s.forwarder.Targeted
  running : ∀ task self, s.forwarder.tasks[task]? = some self →
    self.point.finished = false →
      ∃ connection c sending, s.running.lookup connection = some task ∧
        s.exchange.connections[connection]? = some c ∧
          c.serving = .forwarding sending
  order : (s.forwarder.line target).InOrder
  data : (s.forwarder.line target).tasks.map Prod.fst =
    (s.exchange.handedOn loads target).map Dispatch.data
  browsing : s.Browsing loads target

theorem linked_start (loads : JsonLoads) (target : String) (maxRetries : ℕ) :
    (Proxied.start maxRetries).Linked loads target where
  recorded := Exchange.recorded_start maxRetries
  held := held_create maxRetries
  steady := Exchange.steady_start maxRetries
  targeted := Forwarder.targeted_empty
  running := by
    intro task self found
    cases found
  order := Forwarder.inOrder_empty
  data := rfl
  browsing := by
    refine .nobody ?_ nofun
    intro thread loop here
    cases here

section

variable {loads : JsonLoads} {target : String} {s next : Proxied}

theorem Linked.tunnel {inner : ExchangeEvent Bytes}
    (linked : s.Linked loads target)
    (move : ExchangeMove s.exchange inner next.exchange)
    (guarded : Tunnel.LossBeforeHandling s.exchange inner)
    (forwarder : next.forwarder = s.forwarder)
    (running : ∀ task self, s.forwarder.tasks[task]? = some self →
      self.point.finished = false →
        ∃ connection c sending, next.running.lookup connection = some task ∧
          next.exchange.connections[connection]? = some c ∧
            c.serving = .forwarding sending)
    (handed : next.exchange.handed = s.exchange.handed)
    (browsing : next.Browsing loads target) : next.Linked loads target where
  recorded := linked.recorded.step move
  held := move.held linked.held
  steady := linked.steady.step linked.held guarded move
  targeted := by
    rw [forwarder]
    exact linked.targeted
  running := by
    rw [forwarder]
    exact running
  order := by
    rw [forwarder]
    exact linked.order
  data := by
    rw [forwarder, handedOn_congr handed]
    exact linked.data
  browsing := browsing

theorem Linked.running_keep {inner : ExchangeEvent Bytes}
    (linked : s.Linked loads target)
    (move : ExchangeMove s.exchange inner next.exchange)
    (inside : inner.forwards = false) {task : ℕ} {self : RelayTask}
    (found : s.forwarder.tasks[task]? = some self)
    (busy : self.point.finished = false) :
    ∃ connection c sending, s.running.lookup connection = some task ∧
      next.exchange.connections[connection]? = some c ∧
        c.serving = .forwarding sending := by
  obtain ⟨connection, c, sending, runs, there, forwarding⟩ :=
    linked.running task self found busy
  have other : ∀ response, inner ≠ .serverForwarded connection response := by
    rintro response rfl
    cases inside
  obtain ⟨c', there', forwarding'⟩ := move.forwarding there forwarding other
  exact ⟨connection, c', sending, runs, there', forwarding'⟩

theorem Linked.call {thread : ℕ} {request : Bytes}
    (linked : s.Linked loads target)
    (sent : ExchangeMove s.exchange (.sendRequest thread request) next.exchange)
    (forwarder : next.forwarder = s.forwarder)
    (running : next.running = s.running)
    (browsing : next.exchange.handed = s.exchange.handed →
      (∃ point : CallPoint, next.exchange.client.calls =
        s.exchange.client.calls ++
          [({ thread, request, point } : Call Bytes)]) →
      next.Browsing loads target) : next.Linked loads target := by
  have handed := sent.handed_of_ne nofun
  refine linked.tunnel sent trivial forwarder ?_ handed ?_
  · rw [running]
    exact fun task self found busy =>
      linked.running_keep sent rfl found busy
  · obtain ⟨point, after⟩ := sent.of_sendRequest
    exact browsing handed ⟨point, by rw [after]⟩

theorem Linked.connect {thread : ℕ} {host : String} {request : Bytes}
    {exchange : Exchange Bytes} (linked : s.Linked loads target)
    (guarded : OneBrowser loads target s (.connect thread host request))
    (fresh : s.loops.lookup thread = none)
    (loaded : loads.request request = some (connectRequest host))
    (sent : ExchangeMove s.exchange (.sendRequest thread request) exchange) :
    ({ s with
        exchange
        loops := s.loops.insert thread
          { target := host, chunks := []
            call := s.exchange.client.calls.length } } :
      Proxied).Linked loads target := by
  refine linked.call sent rfl rfl ?_
  rintro handed ⟨point, calls⟩
  have asks := dispatchOn_of_loaded target loaded
  rw [connectRequest_dispatch] at asks
  by_cases own : host = target
  · subst own
    have absent : ∀ thread loop, s.loops.lookup thread = some loop →
        loop.target ≠ host := by
      intro thread loop here
      exact guarded rfl ⟨thread, loop⟩ (AList.mem_lookup_iff.mp here)
    have unused : ∀ call ∈ s.exchange.client.calls,
        loads.dispatchOn host call.request = none := by
      cases linked.browsing with
      | nobody _ unused => exact unused
      | @one thread loop here own alone on => exact absurd own (absent _ _ here)
    refine .one (AList.lookup_insert _) rfl ?_
      (OnLoop.connect linked.steady linked.recorded unused calls
        (asks.trans (if_pos rfl)) handed)
    intro other loop there own
    by_contra different
    exact absent other loop ((AList.lookup_insert_ne different).symm.trans there)
      own
  · refine linked.browsing.aside calls ?_ ?_ handed
    · refine asks.trans (if_neg ?_)
      intro same
      exact own (Option.some.inj same)
    · intro other loop about
      by_cases same : other = thread
      · subst same
        change (s.loops.insert other _).lookup other = some loop ↔ _
        rw [AList.lookup_insert, fresh]
        constructor
        · rintro ⟨⟩
          exact absurd about own
        · rintro ⟨⟩
      · change (s.loops.insert thread _).lookup other = some loop ↔ _
        rw [AList.lookup_insert_ne same]

theorem Linked.chunk {thread : ℕ} {data request response : Bytes}
    {loop : BrowserLoop} {exchange : Exchange Bytes}
    (linked : s.Linked loads target)
    (here : s.loops.lookup thread = some loop)
    (returned : s.exchange.client.pointOf loop.call = some (.returned response))
    (loaded : loads.request request = some (relayRequest loop.target data))
    (sent : ExchangeMove s.exchange (.sendRequest thread request) exchange) :
    ({ s with
        exchange
        loops := s.loops.insert thread
          { loop with
            chunks := loop.chunks ++ [data]
            call := s.exchange.client.calls.length } } :
      Proxied).Linked loads target := by
  refine linked.call sent rfl rfl ?_
  rintro handed ⟨point, calls⟩
  have asks := dispatchOn_of_loaded target loaded
  rw [relayRequest_dispatch] at asks
  by_cases own : loop.target = target
  · cases linked.browsing with
    | nobody absent unused => exact absurd own (absent thread loop here)
    | @one first latest there _ alone on =>
        obtain rfl := alone thread loop here own
        obtain rfl := Option.some.inj (here.symm.trans there)
        refine .one (AList.lookup_insert _) own ?_
          (on.chunk linked.steady returned calls
            (asks.trans (if_pos (congrArg some own))) handed)
        intro other loop' at_ also
        by_contra different
        exact different (alone other loop'
          ((AList.lookup_insert_ne different).symm.trans at_) also)
  · refine linked.browsing.aside calls ?_ ?_ handed
    · refine asks.trans (if_neg ?_)
      intro same
      exact own (Option.some.inj same)
    · intro other loop' about
      by_cases same : other = thread
      · subst same
        change (s.loops.insert other _).lookup other = some loop' ↔ _
        rw [AList.lookup_insert, here]
        constructor
        · rintro ⟨⟩
          exact absurd about own
        · rintro ⟨⟩
          exact absurd about own
      · change (s.loops.insert thread _).lookup other = some loop' ↔ _
        rw [AList.lookup_insert_ne same]

/-- While a request is handled, every task of the forwarder has ended. -/
theorem Linked.ended (linked : s.Linked loads target) {connection : ℕ}
    {c : Connection Bytes} {sending : Sending Bytes}
    (found : s.exchange.connections[connection]? = some c)
    (handling : c.serving = .handling sending) {task : ℕ} {self : RelayTask}
    (there : s.forwarder.tasks[task]? = some self) :
    self.point.finished = true := by
  cases busy : self.point.finished with
  | true => rfl
  | false =>
      obtain ⟨other, d, inside, -, at_, forwarding⟩ :=
        linked.running task self there busy
      exact absurd forwarding
        (linked.steady.not_forwarding found handling at_)

theorem Linked.ended_line (linked : s.Linked loads target) {connection : ℕ}
    {c : Connection Bytes} {sending : Sending Bytes}
    (found : s.exchange.connections[connection]? = some c)
    (handling : c.serving = .handling sending) :
    ∀ task ∈ (s.forwarder.line target).tasks, task.2.finished = true := by
  intro shown member
  obtain ⟨self, inside, same⟩ := List.mem_filterMap.mp member
  obtain ⟨task, there⟩ := List.mem_iff_getElem?.mp inside
  have ended := linked.ended found handling there
  by_cases own : self.target = target
  · rw [RelayTask.onLine_of_eq own] at same
    cases same
    exact ended
  · rw [RelayTask.onLine_of_ne own] at same
    cases same

/-- The CONNECT of the loop is handed over before anything else. -/
theorem Linked.connect_first (linked : s.Linked loads target)
    {sending : Sending Bytes} (made : s.exchange.Made sending) {n : ℕ}
    (waits : s.exchange.client.pointOf sending.call = some (.receiving n))
    (first : s.exchange.handings sending.call = [])
    (asks : loads.dispatchOn target sending.request = some (.connect target)) :
    (s.forwarder.line target).tasks = [] := by
  obtain ⟨point, found⟩ := made
  have nothing : s.exchange.handedOn loads target = [] := by
    cases linked.browsing with
    | nobody absent unused =>
        have plain := unused _ (List.mem_of_getElem? found)
        cases plain.symm.trans asks
    | @one thread loop here own alone on =>
        have ours : sending.call = loop.call := by
          rcases on.others _ _ found (by rw [asks]; exact nofun) with
            same | ⟨response, done⟩
          · exact same
          · rw [TunnelClient.pointOf, found] at waits
            cases (Option.some.inj waits).symm.trans done
        obtain ⟨latest, at_, last⟩ := on.latest
        rw [ours, at_] at found
        obtain rfl := Option.some.inj found
        have isConnect : loop.last = .connect target :=
          Option.some.inj (last.symm.trans asks)
        have sofar := on.handed
        rw [← ours, if_pos first] at sofar
        have empty : loop.chunks = [] := by
          rw [BrowserLoop.last] at isConnect
          split at isConnect
          · exact List.getLast?_eq_none_iff.mp ‹_›
          · cases isConnect
        rw [BrowserLoop.sent, empty] at sofar
        have length := congrArg List.length sofar
        rw [List.length_append] at length
        exact List.eq_nil_of_length_eq_zero (Nat.add_right_cancel length)
  have data := linked.data
  rw [nothing] at data
  exact List.map_eq_nil_iff.mp data

/-- What handing a request over does to the exchange. -/
structure Handed (s next : Proxied) (connection : ℕ) (c : Connection Bytes)
    (sending : Sending Bytes) : Prop where
  found : s.exchange.connections[connection]? = some c
  handling : c.serving = .handling sending
  moved : ExchangeMove s.exchange (.serverForward connection) next.exchange
  after : next.exchange = { s.exchange with
    connections := s.exchange.connections.set connection
      { c with serving := .forwarding sending }
    handed := s.exchange.handed ++ [sending] }
  loops : next.loops = s.loops

theorem Linked.made (linked : s.Linked loads target) {connection : ℕ}
    {c : Connection Bytes} {sending : Sending Bytes}
    (handed : s.Handed next connection c sending) :
    s.exchange.Made sending := by
  apply linked.recorded.made c (List.mem_of_getElem? handed.found)
  rw [Connection.owed, handed.handling]
  exact List.mem_append_right _ List.mem_cons_self

/-- A request goes over to `forward_request`; what it starts there is said by the
last two hypotheses. -/
theorem Linked.hand (linked : s.Linked loads target) {connection : ℕ}
    {c : Connection Bytes} {sending : Sending Bytes}
    (handed : s.Handed next connection c sending)
    (targeted : next.forwarder.Targeted)
    (order : (next.forwarder.line target).InOrder)
    (running : ∀ task self, next.forwarder.tasks[task]? = some self →
      self.point.finished = false → next.running.lookup connection = some task)
    (started : (next.forwarder.line target).tasks.map Prod.fst =
      (s.forwarder.line target).tasks.map Prod.fst ++
        ((loads.dispatchOn target sending.request).map Dispatch.data).toList) :
    next.Linked loads target := by
  have given : next.exchange.handed = s.exchange.handed ++ [sending] := by
    rw [handed.after]
  have quiet : Tunnel.LossBeforeHandling s.exchange
      (.serverForward connection) := trivial
  obtain ⟨-, first, n, waits⟩ :=
    linked.steady.handling handed.found handed.handling
  have inside : next.exchange.connections[connection]? =
      some { c with serving := .forwarding sending } := by
    rw [handed.after]
    exact List.getElem?_set_self (List.getElem?_eq_some_iff.mp handed.found).1
  exact
    { recorded := linked.recorded.step handed.moved
      held := handed.moved.held linked.held
      steady := linked.steady.step linked.held quiet handed.moved
      targeted := targeted
      running := fun task self there busy =>
        ⟨connection, _, sending, running task self there busy, inside, rfl⟩
      order := order
      data := by
        rw [started, linked.data, handedOn_concat loads target given,
          List.map_append]
        cases loads.dispatchOn target sending.request <;> rfl
      browsing := linked.browsing.forward given (by rw [handed.after])
        handed.loops (linked.made handed) waits first }

theorem Linked.forwardRelay {connection : ℕ} {c : Connection Bytes}
    {sending : Sending Bytes} {request : CanonicalRequest}
    (linked : s.Linked loads target)
    (handed : s.Handed next connection c sending)
    (loaded : loads.request sending.request = some request)
    (started : ForwarderMove s.forwarder (.request sending.thread request)
      next.forwarder)
    (running : next.running =
      s.running.insert connection s.forwarder.tasks.length) :
    next.Linked loads target := by
  obtain ⟨-, first, n, waits⟩ :=
    linked.steady.handling handed.found handed.handling
  have asks := dispatchOn_of_loaded target loaded
  have guarded : Forwarder.Sequential target s.forwarder
      (.request sending.thread request) := by
    rintro ⟨host, data, point⟩ start own
    obtain ⟨about, -, connect⟩ := startPoint_eq_some start
    refine ⟨linked.ended_line handed.found handed.handling, ?_⟩
    intro connecting
    have own : host = target := own
    rw [about, if_pos (congrArg some own), connect connecting, own] at asks
    exact linked.connect_first (linked.made handed) waits first asks
  refine linked.hand handed (linked.targeted.step started)
    (Forwarder.inOrder_step linked.targeted linked.order guarded started) ?_ ?_
  · obtain ⟨host, data, point, -, after⟩ :=
      Forwarder.ForwarderMove.of_request started
    rw [after, running]
    intro task self there busy
    change (s.forwarder.tasks ++ _)[task]? = some self at there
    rcases Nat.lt_trichotomy task s.forwarder.tasks.length with
      old | rfl | beyond
    · rw [List.getElem?_append_left old] at there
      have ended := linked.ended handed.found handed.handling there
      cases busy.symm.trans ended
    · exact AList.lookup_insert _
    · rw [List.getElem?_eq_none (by rw [List.length_append]; exact beyond)]
        at there
      cases there
  · obtain ⟨host, data, point, start, after⟩ :=
      Forwarder.ForwarderMove.of_request started
    obtain ⟨about, same, -⟩ := startPoint_eq_some start
    rw [after, Forwarder.tasks_append, List.map_append, asks, about]
    by_cases own : host = target
    · rw [RelayTask.onLine_of_eq own, if_pos (congrArg some own), same]
      rfl
    · rw [RelayTask.onLine_of_ne own, if_neg fun equal =>
        own (Option.some.inj equal)]
      rfl

theorem Linked.forwardOther {connection : ℕ} {c : Connection Bytes}
    {sending : Sending Bytes} (linked : s.Linked loads target)
    (handed : s.Handed next connection c sending)
    (forwarder : next.forwarder = s.forwarder)
    (plain : ∀ request, loads.request sending.request = some request →
      Forwarder.startPoint request.dispatch = none) :
    next.Linked loads target := by
  have asks : loads.dispatchOn target sending.request = none := by
    cases loaded : loads.request sending.request with
    | none => rw [JsonLoads.dispatchOn, loaded]; rfl
    | some request =>
        rw [dispatchOn_of_loaded target loaded,
          startPoint_none (plain request loaded), if_neg nofun]
  refine linked.hand handed ?_ ?_ ?_ ?_
  · rw [forwarder]
    exact linked.targeted
  · rw [forwarder]
    exact linked.order
  · rw [forwarder]
    intro task self there busy
    have ended := linked.ended handed.found handed.handling there
    cases busy.symm.trans ended
  · rw [forwarder, asks]
    exact (List.append_nil _).symm

theorem Linked.relay {event : ForwarderEvent} {forwarder : Forwarder}
    {task : ℕ} {self : RelayTask} (linked : s.Linked loads target)
    (found : s.forwarder.tasks[task]? = some self)
    (move : TaskMove s.forwarder task self event forwarder) :
    ({ s with forwarder } : Proxied).Linked loads target :=
  { linked with
    targeted := linked.targeted.move found move
    running := by
      intro index other there busy
      obtain ⟨before, here, running⟩ :=
        Forwarder.unfinished_of_move found move there busy
      exact linked.running index before here running
    order := by
      by_cases own : self.target = target
      · exact Forwarder.inOrder_move linked.targeted found own linked.order move
      · change (forwarder.line target).InOrder
        rw [Forwarder.line_move_of_ne linked.targeted found own move]
        exact linked.order
    data := (Forwarder.map_fst_move linked.targeted found move).trans linked.data
    browsing := by
      cases linked.browsing with
      | nobody absent unused => exact .nobody absent unused
      | one here own alone on =>
          exact .one here own alone ⟨on.latest, on.others, on.handed⟩ }

theorem Linked.forwarded {connection : ℕ} {response : Bytes}
    (linked : s.Linked loads target)
    (moved : ExchangeMove s.exchange (.serverForwarded connection response)
      next.exchange)
    (forwarder : next.forwarder = s.forwarder) (loops : next.loops = s.loops)
    (running : ∀ other, other ≠ connection →
      next.running.lookup other = s.running.lookup other)
    (done : ∀ task self, s.running.lookup connection = some task →
      s.forwarder.tasks[task]? = some self → self.point.finished = true) :
    next.Linked loads target := by
  have handed := moved.handed_of_ne nofun
  refine linked.tunnel moved trivial forwarder ?_ handed
    (linked.browsing.keep moved rfl loops handed)
  intro task self found busy
  obtain ⟨other, c, sending, runs, there, forwarding⟩ :=
    linked.running task self found busy
  have different : other ≠ connection := by
    rintro rfl
    cases busy.symm.trans (done task self runs found)
  obtain ⟨c', there', forwarding'⟩ := moved.forwarding there forwarding (by
    intro answer same
    cases same
    exact different rfl)
  exact ⟨other, c', sending, (running other different).trans runs, there',
    forwarding'⟩

theorem Linked.step {event : ProxiedEvent} (linked : s.Linked loads target)
    (gentle : s.LossBeforeHandling event)
    (alone : OneBrowser loads target s event)
    (move : ProxiedMove loads s event next) : next.Linked loads target := by
  cases move with
  | connect fresh loaded sent => exact linked.connect alone fresh loaded sent
  | chunk here returned loaded sent =>
      exact linked.chunk here returned loaded sent
  | other sent =>
      refine linked.call sent rfl rfl ?_
      rintro handed ⟨point, calls⟩
      exact linked.browsing.aside calls alone (fun _ _ _ => Iff.rfl) handed
  | tunnel silent old move =>
      have handed := move.handed_of_ne (by rintro index rfl; cases silent)
      exact linked.tunnel move gentle rfl
        (fun _ _ found busy => linked.running_keep move silent found busy) handed
        (linked.browsing.keep move old rfl handed)
  | forwardRelay found handling moved after loaded started =>
      exact linked.forwardRelay ⟨found, handling, moved, after, rfl⟩ loaded
        started rfl
  | forwardOther found handling moved after plain =>
      exact linked.forwardOther ⟨found, handling, moved, after, rfl⟩ rfl plain
  | relay found move => exact linked.relay found move
  | forwardedOther moved plain =>
      refine linked.forwarded moved rfl rfl (fun _ _ => rfl) ?_
      intro task self runs
      cases plain.symm.trans runs
  | @forwardedRelay connection task response self answer exchange moved runs found
      done loaded =>
      refine linked.forwarded moved rfl rfl
        (fun _ different => AList.lookup_erase_ne different) ?_
      intro other another runs' found'
      obtain rfl := Option.some.inj (runs.symm.trans runs')
      obtain rfl := Option.some.inj (found.symm.trans found')
      rw [done]
      rfl

/-- What a target was sent is a first part of what its browser sent. -/
theorem Linked.written (linked : s.Linked loads target) {thread : ℕ}
    {loop : BrowserLoop} (here : s.loops.lookup thread = some loop)
    (own : loop.target = target) {sock : TargetSock}
    (member : sock ∈ s.forwarder.socks) (opened : sock.target = target) :
    (sock.written.map Prod.snd).flatten <+: loop.chunks.flatten := by
  cases linked.browsing with
  | nobody absent unused => exact absurd own (absent thread loop here)
  | @one first latest there also alone on =>
      obtain rfl := alone thread loop here own
      obtain rfl := Option.some.inj (here.symm.trans there)
      have reached := Forwarder.written_prefix linked.order member opened
      rw [Line.data, linked.data] at reached
      refine reached.trans ?_
      rw [← loop.sent_data, ← on.handed, List.map_append, List.flatten_append]
      exact List.prefix_append _ _

end

end Proxied

end VpnTunnel.Tunnel
