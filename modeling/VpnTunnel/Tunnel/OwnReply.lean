import VpnTunnel.Tunnel.Locking

namespace VpnTunnel.Tunnel

open VpnTunnel.Crypto
open VpnTunnel.Client
open VpnTunnel.Server
open VpnTunnel.Foundation

/-! When the reply that `_do_request` reads is the one to its own request. -/

/-- No call enters `_do_request` on a socket that still owes a reply. -/
def NothingOwed {ρ : Type} (s : Exchange ρ) : ExchangeEvent ρ → Prop
  | .enter _ _ =>
      s.client.ready = true →
        ∀ sock ∈ s.client.sock, ∀ c ∈ s.connections[sock]?, c.owed = []
  | _ => True

instance {ρ : Type} [DecidableEq ρ] (s : Exchange ρ)
    (event : ExchangeEvent ρ) : Decidable (NothingOwed s event) :=
  match event with
  | .enter _ _ => inferInstanceAs (Decidable (s.client.ready = true →
      ∀ sock ∈ s.client.sock, ∀ c ∈ s.connections[sock]?, c.owed = []))
  | .sendRequest _ _ | .send _ _ | .receive _ _ | .reconnect _ _
  | .nextAttempt _ | .connect _ | .close | .serverReceive _
  | .serverForward _ | .serverForwarded _ _ | .serverRefuse _ | .serverReply _ _ | .serverStop _ =>
      inferInstanceAs (Decidable True)

section

variable {ρ : Type} {c c' : Connection ρ} {handed : List (Sending ρ)}
  {forwardings : List (Forwarding ρ)}

theorem ServerMove.owed_subset (move : ServerMove c c' handed forwardings) :
    c'.owed ⊆ c.owed := by
  intro sending member
  cases move with
  | receive reading next =>
      rw [Connection.owed, reading, next]
      exact member
  | forward handling =>
      rw [Connection.owed, handling]
      exact member
  | forwarded response forwarding =>
      rw [Connection.owed, forwarding]
      exact member
  | refuse handling =>
      rw [Connection.owed, handling]
      exact member
  | reply replying =>
      rw [Connection.owed, replying]
      simpa [Connection.owed] using member
  | stop outside =>
      rw [Connection.owed] at member
      exact List.mem_append_left _ (by simpa using member)

theorem ServerMove.handed_owed (move : ServerMove c c' handed forwardings) :
    ∀ sending ∈ handed, sending ∈ c.owed := by
  cases move with
  | forward handling =>
      intro sending member
      rw [List.mem_singleton.mp member, Connection.owed, handling]
      exact List.mem_append_right _ List.mem_cons_self
  | _ => exact nofun

theorem ServerMove.forwardings_owed (move : ServerMove c c' handed forwardings) :
    ∀ x ∈ forwardings, x.sending ∈ c.owed := by
  cases move with
  | forwarded response forwarding =>
      intro x member
      rw [List.mem_singleton.mp member, Connection.owed, forwarding]
      exact List.mem_append_right _ List.mem_cons_self
  | _ => exact nofun

/-- A new response is the one that `forward_request` gave. -/
theorem ServerMove.replies (move : ServerMove c c' handed forwardings) {r : Reply ρ}
    (member : r ∈ c'.replies) (answer : r.msgType = .dataResponse) :
    r ∈ c.replies ∨ ⟨r.about, r.payload⟩ ∈ forwardings := by
  cases move with
  | receive reading next =>
      left
      rw [Connection.replies, reading]
      exact member
  | forward handling =>
      left
      rw [Connection.replies, handling]
      exact member
  | forwarded response forwarding =>
      rcases List.mem_append.mp member with old | new
      · exact .inl (List.mem_append_left _ old)
      · rw [List.mem_singleton.mp new]
        exact .inr (List.mem_singleton.mpr rfl)
  | refuse handling =>
      rcases List.mem_append.mp member with old | new
      · exact .inl (List.mem_append_left _ old)
      · rw [List.mem_singleton.mp new] at answer
        cases answer
  | reply replying =>
      left
      rw [Connection.replies, replying]
      simpa [Connection.replies] using member
  | stop outside =>
      left
      exact List.mem_append_left _ (by simpa [Connection.replies] using member)

theorem Connection.read_owed_subset (c : Connection ρ) (count : ℕ) :
    (c.read count).owed ⊆ c.owed := by
  intro sending member
  rcases List.mem_append.mp member with reply | rest
  · apply List.mem_append_left
    obtain ⟨r, inside, rfl⟩ := List.mem_map.mp reply
    exact List.mem_map_of_mem (List.mem_of_mem_drop inside)
  · exact List.mem_append_right _ rest

theorem Connection.read_replies_subset (c : Connection ρ) (count : ℕ) :
    (c.read count).replies ⊆ c.replies := by
  intro reply member
  rcases List.mem_append.mp member with arrived | made
  · exact List.mem_append_left _ (List.mem_of_mem_drop arrived)
  · exact List.mem_append_right _ made

theorem Connection.mem_sent_owed {sending other : Sending ρ}
    (member : other ∈ (c.sent sending).owed) :
    other ∈ c.owed ∨ other = sending := by
  cases serving : c.serving <;>
    simp only [Connection.owed, Connection.sent, serving, List.mem_append,
      List.mem_cons, List.not_mem_nil, or_false] at member ⊢ <;>
    tauto

end

/-! What the frames and replies under way say. -/

/-- The frame repeats what the call was given. -/
def Exchange.Made {ρ : Type} (s : Exchange ρ) (sending : Sending ρ) : Prop :=
  ∃ point, s.client.calls[sending.call]? =
    some { thread := sending.thread, request := sending.request, point }

structure Exchange.Recorded {ρ : Type} (s : Exchange ρ) : Prop where
  made : ∀ c ∈ s.connections, ∀ sending ∈ c.owed, s.Made sending
  handed : ∀ sending ∈ s.handed, s.Made sending
  forwarded : ∀ x ∈ s.forwarded, s.Made x.sending
  answered : ∀ c ∈ s.connections, ∀ r ∈ c.replies, r.msgType = .dataResponse →
    ⟨r.about, r.payload⟩ ∈ s.forwarded

section

variable {ρ : Type} {s next : Exchange ρ}

theorem Exchange.recorded_start (maxRetries : ℕ) :
    (Exchange.start maxRetries : Exchange ρ).Recorded :=
  ⟨nofun, nofun, nofun, nofun⟩

theorem Exchange.Made.keeps {sending : Sending ρ} (made : s.Made sending)
    (keeps : s.client.Keeps next.client) : next.Made sending := by
  obtain ⟨point, found⟩ := made
  exact keeps _ _ found

/-- Steps of the client: connections owe and answer as before, new ones nothing,
and what is sent is a call's own. -/
theorem Exchange.Recorded.client (recorded : s.Recorded)
    (keeps : s.client.Keeps next.client) (handed : next.handed = s.handed)
    (forwarded : next.forwarded = s.forwarded)
    (connections : ∀ c' ∈ next.connections,
      (∀ sending ∈ c'.owed, next.Made sending ∨
        ∃ c ∈ s.connections, sending ∈ c.owed) ∧
      (∀ r ∈ c'.replies, ∃ c ∈ s.connections, r ∈ c.replies)) :
    next.Recorded where
  made := by
    intro c' member sending owed
    rcases (connections c' member).1 sending owed with made | ⟨c, inside, owed⟩
    · exact made
    · exact (recorded.made c inside sending owed).keeps keeps
  handed := by
    intro sending member
    rw [handed] at member
    exact (recorded.handed sending member).keeps keeps
  forwarded := by
    intro x member
    rw [forwarded] at member
    exact (recorded.forwarded x member).keeps keeps
  answered := by
    intro c' member r answer isResponse
    obtain ⟨c, inside, answer⟩ := (connections c' member).2 r answer
    rw [forwarded]
    exact recorded.answered c inside r answer isResponse

theorem Exchange.mem_connectionsAfter {connections : List (Connection ρ)}
    {handshake : Except PyError SessionKeys} {c : Connection ρ}
    (member : c ∈ connectionsAfter connections handshake) :
    c ∈ connections ∨ c.owed = [] ∧ c.replies = [] := by
  cases handshake with
  | error failure => exact .inl member
  | ok keys =>
      rcases List.mem_append.mp member with old | new
      · exact .inl old
      · rw [List.mem_singleton.mp new]
        exact .inr ⟨rfl, rfl⟩

theorem Exchange.Recorded.connect (recorded : s.Recorded)
    (keeps : s.client.Keeps next.client) (handed : next.handed = s.handed)
    (forwarded : next.forwarded = s.forwarded)
    (connections : ∀ c ∈ next.connections,
      c ∈ s.connections ∨ c.owed = [] ∧ c.replies = []) : next.Recorded := by
  apply recorded.client keeps handed forwarded
  intro c member
  rcases connections c member with old | ⟨owed, replies⟩
  · exact ⟨fun sending owed => .inr ⟨c, old, owed⟩, fun r reply => ⟨c, old, reply⟩⟩
  · rw [owed, replies]
    exact ⟨nofun, nofun⟩

theorem mem_modify {α : Type} {l : List α} {index : ℕ} {change : α → α} {x : α}
    (member : x ∈ l.modify index change) : ∃ y ∈ l, x = y ∨ x = change y := by
  obtain ⟨position, found⟩ := List.mem_iff_getElem?.mp member
  rw [List.getElem?_modify] at found
  obtain ⟨y, here, same⟩ := Option.map_eq_some_iff.mp found
  refine ⟨y, List.mem_of_getElem? here, ?_⟩
  split at same
  · exact .inr same.symm
  · exact .inl same.symm

theorem Exchange.Recorded.read (recorded : s.Recorded)
    (keeps : s.client.Keeps next.client) {sock count : ℕ}
    (handed : next.handed = s.handed)
    (forwarded : next.forwarded = s.forwarded)
    (connections : next.connections = s.connections.modify sock (·.read count)) :
    next.Recorded := by
  apply recorded.client keeps handed forwarded
  intro c' member
  rw [connections] at member
  obtain ⟨c, inside, rfl | rfl⟩ := mem_modify member
  · exact ⟨fun sending owed => .inr ⟨c', inside, owed⟩,
      fun r reply => ⟨c', inside, reply⟩⟩
  · exact ⟨fun sending owed => .inr ⟨c, inside, c.read_owed_subset _ owed⟩,
      fun r reply => ⟨c, inside, c.read_replies_subset _ reply⟩⟩

theorem ExchangeMove.keeps {event : ExchangeEvent ρ}
    (move : ExchangeMove s event next) : s.client.Keeps next.client := by
  cases move with
  | sendRequest single first =>
      intro index x found
      refine ⟨x.point, ?_⟩
      rw [List.getElem?_append_left (List.getElem?_eq_some_iff.mp found).1]
      exact found
  | enter free here => exact TunnelClient.keeps_enter _ _ _
  | send here open_ => exact TunnelClient.keeps_goto
  | sendFault here => exact TunnelClient.keeps_goto
  | receive here open_ found next => exact TunnelClient.keeps_goto
  | receiveFault here open_ => exact TunnelClient.keeps_goto
  | reconnect free here => exact TunnelClient.keeps_reconnect _ _ _ _
  | nextAttempt here => exact TunnelClient.keeps_goto
  | connect free =>
      exact TunnelClient.keeps_of_eq (TunnelClient.doConnect_calls _ _)
  | close free => exact TunnelClient.keeps_of_eq rfl
  | server here given answered found move => exact TunnelClient.keeps_of_eq rfl

theorem Exchange.Recorded.step {event : ExchangeEvent ρ} (recorded : s.Recorded)
    (move : ExchangeMove s event next) : next.Recorded := by
  have keeps := move.keeps
  cases move with
  | sendRequest single first =>
      exact recorded.connect keeps rfl rfl fun c member => .inl member
  | enter free here =>
      refine recorded.connect keeps rfl rfl ?_
      intro c member
      dsimp only at member
      split at member
      · exact .inl member
      · exact Exchange.mem_connectionsAfter member
  | @send call n thread sock request here open_ =>
      refine recorded.client keeps rfl rfl ?_
      intro c' member
      obtain ⟨c, inside, rfl | rfl⟩ := mem_modify member
      · exact ⟨fun sending owed => .inr ⟨c', inside, owed⟩,
          fun r reply => ⟨c', inside, reply⟩⟩
      · refine ⟨?_, fun r reply => ⟨c, inside, reply⟩⟩
        intro sending owed
        rcases Connection.mem_sent_owed owed with old | rfl
        · exact .inr ⟨c, inside, old⟩
        · exact .inl (keeps _ _ here)
  | sendFault here =>
      exact recorded.connect keeps rfl rfl fun c member => .inl member
  | receive here open_ found next => exact recorded.read keeps rfl rfl rfl
  | receiveFault here open_ => exact recorded.read keeps rfl rfl rfl
  | reconnect free here =>
      exact recorded.connect keeps rfl rfl fun c => Exchange.mem_connectionsAfter
  | nextAttempt here =>
      exact recorded.connect keeps rfl rfl fun c member => .inl member
  | connect free =>
      exact recorded.connect keeps rfl rfl fun c => Exchange.mem_connectionsAfter
  | close free =>
      exact recorded.connect keeps rfl rfl fun c member => .inl member
  | @server event index c c' handed forwardings here given answered found move =>
      have inside : c ∈ s.connections := List.mem_of_getElem? found
      exact
        { made := by
            intro other member sending owed
            rcases List.mem_or_eq_of_mem_set member with old | rfl
            · exact recorded.made other old sending owed
            · exact recorded.made c inside sending (move.owed_subset owed)
          handed := by
            intro sending member
            rcases List.mem_append.mp member with old | new
            · exact recorded.handed sending old
            · exact recorded.made c inside _ (move.handed_owed sending new)
          forwarded := by
            intro x member
            rcases List.mem_append.mp member with old | new
            · exact recorded.forwarded x old
            · exact recorded.made c inside _ (move.forwardings_owed x new)
          answered := by
            intro other member r answer isResponse
            rcases List.mem_or_eq_of_mem_set member with old | rfl
            · exact List.mem_append_left _
                (recorded.answered other old r answer isResponse)
            · rcases move.replies answer isResponse with old | new
              · exact List.mem_append_left _
                  (recorded.answered c inside r old isResponse)
              · exact List.mem_append_right _ new }

end

/-! What the socket in use owes. -/

structure Exchange.Prompt {ρ : Type} (s : Exchange ρ) : Prop where
  /-- While a call holds the lock, its socket owes a reply to nobody else. -/
  owed : ∀ call sock c, s.client.lock = some call → s.client.sock = some sock →
    s.connections[sock]? = some c → ∀ sending ∈ c.owed,
      sending.call = call ∧ ∃ n, s.client.pointOf call = some (.receiving n)
  returned : ∀ call response,
    s.client.pointOf call = some (.returned response) →
      ∃ x ∈ s.forwarded, x.sending.call = call ∧ x.response = response

section

variable {ρ : Type} {s next : Exchange ρ}

theorem Exchange.prompt_start (maxRetries : ℕ) :
    (Exchange.start maxRetries : Exchange ρ).Prompt where
  owed := nofun
  returned := by
    intro call response here
    cases here

theorem Exchange.Prompt.outside (prompt : s.Prompt)
    (lock : next.client.lock = s.client.lock)
    (sock : next.client.sock = s.client.sock)
    (connections : next.connections = s.connections)
    (forwarded : next.forwarded = s.forwarded)
    (points : ∀ call point, next.client.pointOf call = some point →
      s.client.pointOf call = some point ∨
        ∀ response, point ≠ .returned response)
    (receiving : ∀ call n, s.client.pointOf call = some (.receiving n) →
      next.client.pointOf call = some (.receiving n)) : next.Prompt where
  owed := by
    intro call socket c held used found sending owed
    rw [lock] at held
    rw [sock] at used
    rw [connections] at found
    obtain ⟨own, n, here⟩ := prompt.owed call socket c held used found sending owed
    exact ⟨own, n, receiving call n here⟩
  returned := by
    intro call response here
    rw [forwarded]
    rcases points call _ here with old | other
    · exact prompt.returned call response old
    · exact absurd rfl (other response)

theorem Exchange.Prompt.unlocked (prompt : s.Prompt)
    (lock : next.client.lock = none)
    (points : ∀ call point, next.client.pointOf call = some point →
      s.client.pointOf call = some point ∨
        ∀ response, point = .returned response →
          ∃ x ∈ s.forwarded, x.sending.call = call ∧ x.response = response)
    (forwarded : next.forwarded = s.forwarded) : next.Prompt where
  owed := by
    intro call sock c held
    cases lock.symm.trans held
  returned := by
    intro call response here
    rw [forwarded]
    rcases points call _ here with old | answer
    · exact prompt.returned call response old
    · exact answer response rfl

theorem Exchange.Prompt.leave (prompt : s.Prompt) {call : ℕ}
    {old point : CallPoint} (here : s.client.pointOf call = some old)
    (lock : next.client.lock = none)
    (points : ∀ index, next.client.pointOf index =
      (s.client.goto call point).pointOf index)
    (answer : ∀ response, point = .returned response →
      ∃ x ∈ s.forwarded, x.sending.call = call ∧ x.response = response)
    (forwarded : next.forwarded = s.forwarded) : next.Prompt := by
  refine prompt.unlocked lock ?_ forwarded
  intro other reached there
  rw [points] at there
  rcases TunnelClient.pointOf_goto_cases here there with
    ⟨rfl, rfl⟩ | ⟨-, before⟩
  · exact .inr answer
  · exact .inl before

theorem Exchange.Prompt.take (prompt : s.Prompt) {call n : ℕ} {old : CallPoint}
    (here : s.client.pointOf call = some old)
    (points : ∀ index, next.client.pointOf index =
      (s.client.goto call (.sending n)).pointOf index)
    (idle : ∀ sock c, next.client.sock = some sock →
      next.connections[sock]? = some c → c.owed = [])
    (forwarded : next.forwarded = s.forwarded) : next.Prompt where
  owed := by
    intro other sock c _ used found sending owed
    rw [idle sock c used found] at owed
    cases owed
  returned := by
    intro other response there
    rw [points] at there
    rw [forwarded]
    rcases TunnelClient.pointOf_goto_cases here there with
      ⟨rfl, impossible⟩ | ⟨different, before⟩
    · cases impossible
    · exact prompt.returned other response before

theorem Exchange.Prompt.enter (prompt : s.Prompt) {call n : ℕ}
    {handshake : Except PyError SessionKeys}
    (guarded : NothingOwed s (.enter call handshake))
    (free : s.client.lock = none)
    (here : s.client.pointOf call = some (.attempt n)) :
    ({ s with
        client := s.client.enter call n s.connections.length handshake
        connections :=
          if s.client.ready then s.connections
          else Exchange.connectionsAfter s.connections handshake } :
      Exchange ρ).Prompt := by
  unfold TunnelClient.enter
  by_cases ready : s.client.ready = true
  · rw [if_pos ready, if_pos ready]
    exact prompt.take here (fun _ => rfl)
      (fun sock c used found => guarded ready sock used c found) rfl
  · rw [if_neg ready, if_neg ready]
    cases handshake with
    | ok keys =>
        refine prompt.take here (TunnelClient.pointOf_doConnect_goto _ _) ?_ rfl
        intro sock c used found
        cases used
        rw [Exchange.connectionsAfter, List.getElem?_concat_length] at found
        cases found
        rfl
    | error failure =>
        exact prompt.leave here free (TunnelClient.pointOf_doConnect_goto _ _)
          nofun rfl

theorem Exchange.Prompt.send (prompt : s.Prompt) (held : Held s.client)
    {call n thread sock : ℕ} {request : ρ}
    (here : s.client.calls[call]? =
      some { thread, request, point := .sending n })
    (open_ : s.client.sock = some sock) :
    ({ s with client := s.client.goto call (.receiving n) }.atConnection sock
      (·.sent { call, attempt := n, thread, request })).Prompt := by
  have at_ : s.client.pointOf call = some (.sending n) := by
    rw [TunnelClient.pointOf, here]
    rfl
  have lock := held call _ at_ rfl
  exact
    { owed := by
        intro other used c held inUse found sending owed
        obtain rfl := Option.some.inj (lock.symm.trans held)
        obtain rfl := Option.some.inj (open_.symm.trans inUse)
        refine ⟨?_, n, TunnelClient.pointOf_goto_of at_⟩
        change (s.connections.modify sock _)[sock]? = some c at found
        rw [List.getElem?_modify_eq] at found
        obtain ⟨before, there, rfl⟩ := Option.map_eq_some_iff.mp found
        rcases Connection.mem_sent_owed owed with old | rfl
        · exact (prompt.owed call sock before lock open_ there sending old).1
        · rfl
      returned := by
        intro other response there
        rcases TunnelClient.pointOf_goto_cases at_ there with
          ⟨rfl, impossible⟩ | ⟨-, before⟩
        · cases impossible
        · exact prompt.returned other response before }

theorem Exchange.Prompt.step {event : ExchangeEvent ρ} (prompt : s.Prompt)
    (recorded : s.Recorded) (held : Held s.client)
    (guarded : NothingOwed s event) (move : ExchangeMove s event next) :
    next.Prompt := by
  cases move with
  | @sendRequest thread request point single first =>
      refine prompt.outside rfl rfl rfl rfl ?_ ?_
      · intro call other here
        rcases TunnelClient.pointOf_append rfl here with old | same
        · exact .inl old
        · right
          rw [same]
          change ∀ response, point ≠ .returned response
          rw [first]
          split <;> (intro _ returned; cases returned)
      · intro call n here
        obtain ⟨x, found, point⟩ := Option.map_eq_some_iff.mp here
        rw [TunnelClient.pointOf,
          List.getElem?_append_left (List.getElem?_eq_some_iff.mp found).1]
        exact here
  | enter free here => exact prompt.enter guarded free here
  | send here open_ => exact prompt.send held here open_
  | sendFault here =>
      exact prompt.leave here rfl (fun _ => rfl) (by intros; contradiction) rfl
  | @receive call n sock c reply rest here open_ found next =>
      have lock := held call _ here rfl
      have first : reply ∈ c.toClient := by
        rw [next]
        exact List.mem_cons_self
      refine prompt.leave here rfl (fun _ => rfl) ?_ rfl
      intro response answer
      have own := (prompt.owed call sock c lock open_ found reply.about
        (List.mem_append_left _ (List.mem_map_of_mem first))).1
      cases read : readReply reply.msgType reply.payload with
      | error failure =>
          simp only [Except.bind, read] at answer
          cases answer
      | ok payload =>
          simp only [Except.bind, read] at answer
          cases answer
          obtain ⟨isResponse, same⟩ := readReply_eq_ok.mp read
          have recordedReply := recorded.answered c
            (List.mem_of_getElem? found) reply
            (List.mem_append_left _ first) isResponse
          exact ⟨_, recordedReply, own, same⟩
  | receiveFault here open_ =>
      exact prompt.leave here rfl (fun _ => rfl) (by intros; contradiction) rfl
  | @reconnect call n lastErr handshake free here =>
      refine prompt.leave here ?_
        (TunnelClient.pointOf_doConnect_goto _ handshake)
        (by intros; contradiction) rfl
      rcases s.client.doConnect_cases s.connections.length handshake with
        ⟨keys, rfl, -⟩ | ⟨failure, rfl, -⟩ <;> exact free
  | @nextAttempt call n lastErr here =>
      refine prompt.outside rfl rfl rfl rfl ?_ ?_
      · intro other point there
        rcases TunnelClient.pointOf_goto_cases here there with
          ⟨-, rfl⟩ | ⟨-, before⟩
        · right
          split <;> (intro _ returned; cases returned)
        · exact .inl before
      · intro other m receiving
        have different : other ≠ call := by
          rintro rfl
          cases here.symm.trans receiving
        exact (TunnelClient.pointOf_goto_ne different).trans receiving
  | @connect handshake free =>
      refine prompt.unlocked ?_ ?_ rfl
      · rcases s.client.doConnect_cases s.connections.length handshake with
          ⟨keys, rfl, -⟩ | ⟨failure, rfl, -⟩ <;> exact free
      · intro other point there
        rw [TunnelClient.pointOf_of_calls
          (TunnelClient.doConnect_calls _ handshake)] at there
        exact .inl there
  | close free => exact prompt.unlocked free (fun _ _ there => .inl there) rfl
  | @server event index c c' handed forwardings here given answered found move =>
      exact
        { owed := by
            intro call sock other held used there sending owed
            change (s.connections.set index c')[sock]? = some other at there
            by_cases same : index = sock
            · subst same
              rw [List.getElem?_set_self
                (List.getElem?_eq_some_iff.mp found).1] at there
              cases there
              exact prompt.owed call index c held used found sending
                (move.owed_subset owed)
            · rw [List.getElem?_set_ne same] at there
              exact prompt.owed call sock other held used there sending owed
          returned := by
            intro call response there
            obtain ⟨x, member, own⟩ := prompt.returned call response there
            exact ⟨x, List.mem_append_left _ member, own⟩ }

end

/-- The call was answered with what `forward_request` gave for it. -/
def Exchange.OwnReplies {ρ : Type} (s : Exchange ρ) : Prop :=
  ∀ (index : ℕ) (call : Call ρ) (response : Bytes),
    s.client.calls[index]? = some call → call.point = .returned response →
      ∃ x ∈ s.forwarded, x.sending.call = index ∧
        x.sending.request = call.request ∧ x.response = response

/-- As long as no call enters `_do_request` on a socket that still owes a reply,
every response that `send_request` returns is the one to its own request. -/
theorem returned_response_is_own {ρ : Type} (maxRetries : ℕ)
    (events : List (ExchangeEvent ρ)) (s : Exchange ρ)
    (prompt : Along exchangeStep NothingOwed (.start maxRetries) events)
    (reached : run exchangeStep (.start maxRetries) events = some s) :
    s.OwnReplies := by
  have kept : ∀ (state : Exchange ρ) (event : ExchangeEvent ρ)
      (next : Exchange ρ),
      state.Recorded ∧ Held state.client ∧ state.Prompt →
      NothingOwed state event → exchangeStep state event = some next →
      next.Recorded ∧ Held next.client ∧ next.Prompt := by
    rintro state event next ⟨recorded, held, prompt⟩ guarded stepped
    have move := exchangeStep_move stepped
    exact ⟨recorded.step move, move.held held,
      prompt.step recorded held guarded move⟩
  obtain ⟨recorded, -, prompt⟩ := run_invariant_along kept prompt reached
    ⟨Exchange.recorded_start maxRetries, held_create maxRetries,
      Exchange.prompt_start maxRetries⟩
  intro index call response found answered
  have here : s.client.pointOf index = some (.returned response) := by
    rw [TunnelClient.pointOf, found, ← answered]
    rfl
  obtain ⟨x, member, own, same⟩ := prompt.returned index response here
  obtain ⟨point, made⟩ := recorded.forwarded x member
  rw [own, found, Option.some.injEq] at made
  exact ⟨x, member, own, by rw [made], same⟩

/-- Two calls at once, the second of which has to wait. -/
def sampleReplies : List (ExchangeEvent Bytes) :=
  [.sendRequest 0 [1], .sendRequest 1 [2], .enter 0 (.ok sampleExchangeKeys),
    .send 0 none, .serverReceive 0, .serverForward 0, .serverForwarded 0 [10],
    .serverReply 0 none, .receive 0 .frame, .enter 1 (.ok sampleExchangeKeys),
    .send 1 none, .serverReceive 0, .serverForward 0, .serverForwarded 0 [20],
    .serverReply 0 none, .receive 1 .frame]

theorem returned_response_is_own_call :
    ∃ s, run exchangeStep (.start 3) sampleReplies = some s ∧
      s.client.calls.map Call.point = [.returned [10], .returned [20]] ∧
      s.OwnReplies := by
  have ran : (run exchangeStep (.start 3) sampleReplies).map
      (fun s => s.client.calls.map Call.point) =
        some [.returned [10], .returned [20]] := by
    decide +kernel
  have prompt : Along exchangeStep NothingOwed (.start 3) sampleReplies := by
    decide +kernel
  obtain ⟨s, reached, here⟩ := Option.map_eq_some_iff.mp ran
  exact ⟨s, reached, here,
    returned_response_is_own 3 sampleReplies s prompt reached⟩

/-- Call 0 times out while its request is being forwarded.  Call 1 takes the lock
before the reconnect and reads the late reply. -/
def sampleCrossing : List (ExchangeEvent Bytes) :=
  [.sendRequest 0 [1], .sendRequest 1 [2], .enter 0 (.ok sampleExchangeKeys),
    .send 0 none, .serverReceive 0, .serverForward 0,
    .receive 0 (.failure .timeout 0), .enter 1 (.ok sampleExchangeKeys),
    .send 1 none, .serverForwarded 0 [10], .serverReply 0 none, .receive 1 .frame]

theorem returned_response_crosses :
    ¬ ∀ (maxRetries : ℕ) (events : List (ExchangeEvent Bytes))
      (s : Exchange Bytes),
      run exchangeStep (.start maxRetries) events = some s → s.OwnReplies := by
  intro claimed
  have ran : (run exchangeStep (.start 3) sampleCrossing).map
      (fun s => (s.client.calls[1]?, s.forwarded.map fun x => x.sending.call)) =
      some (some { thread := 1, request := [2], point := .returned [10] }, [0]) := by
    decide +kernel
  obtain ⟨s, reached, view⟩ := Option.map_eq_some_iff.mp ran
  obtain ⟨found, calls⟩ := Prod.mk.inj view
  obtain ⟨x, member, own, -⟩ := claimed 3 sampleCrossing s reached 1 _ [10]
    found rfl
  have listed : x.sending.call ∈ s.forwarded.map fun x => x.sending.call :=
    List.mem_map_of_mem member
  rw [calls, own] at listed
  simp at listed

end VpnTunnel.Tunnel
