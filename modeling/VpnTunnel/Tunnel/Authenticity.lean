import VpnTunnel.Tunnel.Conversation

namespace VpnTunnel.Tunnel

open VpnTunnel.Crypto
open VpnTunnel.Server
open VpnTunnel.Client
open VpnTunnel.Foundation

/-! The assumption on the attacker.  A tag that verifies was computed, on that
body and under that key, by a `send_frame` call, and keys are not shared. -/

/-- The bytes that `recv_frame` would verify on `sock`. -/
def rawOn (sock : Sock) : Option Bytes :=
  match recvRaw sock with
  | .ok raw _ => some raw
  | .error _ _ => none

def TunnelState.Unforged (P : Primitives) (s : TunnelState) (keys : SessionKeys)
    (sock : Sock) : Prop :=
  ∀ raw ∈ rawOn sock,
    verifyHmac P (rawBody raw) (rawMac raw)
      (orHandshakeKey (some keys.macKey)) = true →
    (orHandshakeKey (some keys.macKey), rawBody raw) ∈ s.hmacCalls

instance (P : Primitives) (s : TunnelState) (keys : SessionKeys) (sock : Sock) :
    Decidable (s.Unforged P keys sock) :=
  inferInstanceAs (Decidable (∀ raw ∈ rawOn sock, _ → _))

def IdealHmac (P : Primitives) (s : TunnelState) : TunnelEvent → Prop
  | .establish _ keys =>
      keys.macKey ≠ [] ∧
        ∀ session ∈ s.sessions, session.keys.macKey ≠ keys.macKey
  | .clientReceive index =>
      ∀ session ∈ s.sessions[index]?,
        s.Unforged P session.keys session.toClient.sock
  | .server index (.received _) =>
      ∀ session ∈ s.sessions[index]?,
        s.Unforged P session.keys session.toServer.sock
  | _ => True

instance (P : Primitives) (s : TunnelState) (event : TunnelEvent) :
    Decidable (IdealHmac P s event) :=
  match event with
  | .establish _ keys => inferInstanceAs (Decidable
      (_ ∧ ∀ session ∈ s.sessions, session.keys.macKey ≠ keys.macKey))
  | .clientReceive index => inferInstanceAs (Decidable
      (∀ session ∈ s.sessions[index]?, s.Unforged P _ session.toClient.sock))
  | .server index event =>
      match event with
      | .received _ => inferInstanceAs (Decidable
          (∀ session ∈ s.sessions[index]?,
            s.Unforged P _ session.toServer.sock))
      | .whitelist _ | .tryAdd _ | .handshaked _ | .checkIdle _ | .touched _
      | .foundBucket _ | .consumed _ | .sent _ _ | .forwarded _ | .released
      | .closed | .raised _ => inferInstanceAs (Decidable True)
  | .networkToClient _ _ _ _ | .networkToServer _ _ _ _
  | .clientSend _ _ _ _ => inferInstanceAs (Decidable True)

/-! What was passed to `send_frame` in a session. -/

/-- The client sends requests, the server everything else. -/
def Session.Sent (session : Session) (msgType : MessageType) (payload : Bytes) :
    Prop :=
  if msgType = .dataRequest then .passed payload ∈ session.clientLog
  else .passed msgType payload ∈ session.handler.log

/-- The body was built under the session's keys from something sent in it. -/
structure Session.Tagged (P : Primitives) (session : Session)
    (call : Bytes × Bytes) : Prop where
  key : call.1 = orHandshakeKey (some session.keys.macKey)
  body : ∃ msgType payload urandom encPayload nonce,
    session.keys.sessionId.length = sessionIdSize ∧
    protectPayload P payload (some session.keys.encKey) urandom =
      .ok (encPayload, nonce) ∧
    call.2 = frameBody msgType session.keys.sessionId nonce encPayload ∧
    session.Sent msgType payload

/-- The keys stay and the logs grow. -/
structure Session.Grows (first second : Session) : Prop where
  keys : second.keys = first.keys
  clientLog : first.clientLog ⊆ second.clientLog
  handlerLog : first.handler.log ⊆ second.handler.log

theorem Session.Sent.grows {first second : Session} (grows : first.Grows second)
    {msgType : MessageType} {payload : Bytes} (sent : first.Sent msgType payload) :
    second.Sent msgType payload := by
  unfold Sent at sent ⊢
  split
  · rw [if_pos ‹_›] at sent
    exact grows.clientLog sent
  · rw [if_neg ‹_›] at sent
    exact grows.handlerLog sent

theorem Session.Tagged.grows {P : Primitives} {first second : Session}
    (grows : first.Grows second) {call : Bytes × Bytes}
    (tagged : first.Tagged P call) : second.Tagged P call where
  key := by rw [tagged.key, grows.keys]
  body := by
    obtain ⟨msgType, payload, urandom, encPayload, nonce, sidSize, protect,
      body, sent⟩ := tagged.body
    rw [← grows.keys] at sidSize protect body
    exact ⟨msgType, payload, urandom, encPayload, nonce, sidSize, protect, body,
      sent.grows grows⟩

theorem tagged_of_mem_sendFrameHmacs {P : Primitives} {session : Session}
    {msgType : MessageType} {payload : Bytes} {urandom : GcmNonce}
    {call : Bytes × Bytes} (sent : session.Sent msgType payload)
    (member : call ∈ sendFrameHmacs P msgType session.keys payload urandom) :
    session.Tagged P call := by
  unfold sendFrameHmacs at member
  by_cases sidSize : session.keys.sessionId.length = sessionIdSize
  · rw [if_pos sidSize] at member
    cases protect : protectPayload P payload (some session.keys.encKey)
        urandom with
    | error failure =>
        rw [protect] at member
        cases member
    | ok pair =>
        obtain ⟨encPayload, nonce⟩ := pair
        rw [protect] at member
        rw [List.mem_singleton.mp member]
        exact ⟨rfl, msgType, payload, urandom, encPayload, nonce, sidSize,
          protect, rfl, sent⟩
  · rw [if_neg sidSize] at member
    cases member

/-! Reading a tagged body gives what was sent. -/

theorem recvFrame_eq_ok {P : Primitives} {encKey macKey : Option Bytes}
    {sock rest : Sock} {frame : MessageType × Bytes × Bytes}
    (received : recvFrame P encKey macKey sock = .ok frame rest) :
    ∃ raw, recvRaw sock = .ok raw rest ∧
      openFrame P raw encKey macKey = .ok frame := by
  unfold recvFrame at received
  cases read : recvRaw sock with
  | error failure next =>
      simp only [bind, EStateM.bind, read] at received
      cases received
  | ok raw next =>
      simp only [bind, EStateM.bind, read] at received
      cases opened : openFrame P raw encKey macKey with
      | error failure =>
          rw [opened] at received
          cases received
      | ok result =>
          rw [opened] at received
          cases received
          exact ⟨raw, rfl, opened⟩

theorem Session.Tagged.sent_of_openFrame {P : Primitives} {session : Session}
    {raw : Bytes} {msgType : MessageType} {sessionId payload : Bytes}
    (tagged : session.Tagged P
      (orHandshakeKey (some session.keys.macKey), rawBody raw))
    (opened : openFrame P raw (some session.keys.encKey)
      (some session.keys.macKey) = .ok (msgType, sessionId, payload)) :
    session.Sent msgType payload := by
  obtain ⟨original, plaintext, urandom, encPayload, nonce, sidSize, protect,
    body, sent⟩ := tagged.body
  change rawBody raw = _ at body
  obtain ⟨-, head, -, recovered⟩ := openFrame_eq_ok.mp opened
  rw [body] at head recovered
  have sameType : original = msgType := by
    have codes := congrArg MessageType.ofCode (Option.some.inj head)
    simpa using codes
  rw [frameBody_encPayload original encPayload sidSize
      (protectPayload_nonce_length protect),
    frameBody_nonce original encPayload sidSize
      (protectPayload_nonce_length protect),
    recoverPayload_of_protectPayload protect] at recovered
  rw [← sameType, ← Except.ok.inj recovered]
  exact sent

/-! The invariant. -/

structure Session.Authentic (session : Session) : Prop where
  within : Within session.keys session.handler.point
  held : ∀ request, inHand session.handler.point = some request →
    .passed request ∈ session.clientLog
  forwarded : ∀ request, .forwarded request ∈ session.handler.log →
    .passed request ∈ session.clientLog
  returned : ∀ response, .returned response ∈ session.clientLog →
    .passed .dataResponse response ∈ session.handler.log

structure TunnelState.Authentic (P : Primitives) (s : TunnelState) : Prop where
  sessions : ∀ session ∈ s.sessions, session.Authentic
  nonempty : ∀ session ∈ s.sessions, session.keys.macKey ≠ []
  distinct : (s.sessions.map fun session => session.keys.macKey).Nodup
  calls : ∀ call ∈ s.hmacCalls, ∃ session ∈ s.sessions, session.Tagged P call

theorem orHandshakeKey_of_ne_nil {key : Bytes} (nonempty : key ≠ []) :
    orHandshakeKey (some key) = key := by
  cases key with
  | nil => exact absurd rfl nonempty
  | cons byte rest => rfl

/-- Under the assumption, an accepted frame was sent in the same session. -/
theorem TunnelState.Authentic.sent_of_recvFrame {P : Primitives}
    {s : TunnelState} (authentic : s.Authentic P) {session : Session}
    (member : session ∈ s.sessions) {sock rest : Sock}
    (unforged : s.Unforged P session.keys sock)
    {msgType : MessageType} {sessionId payload : Bytes}
    (received : recvFrame P (some session.keys.encKey)
      (some session.keys.macKey) sock = .ok (msgType, sessionId, payload) rest) :
    session.Sent msgType payload := by
  obtain ⟨raw, read, opened⟩ := recvFrame_eq_ok received
  have verified := (openFrame_eq_ok.mp opened).1
  have called := unforged raw (by rw [rawOn, read]; rfl)
    (verifyHmac_eq_true.mpr verified)
  obtain ⟨owner, ownerMember, tagged⟩ := authentic.calls _ called
  have sameKey : owner.keys.macKey = session.keys.macKey := by
    have keys := tagged.key
    rw [orHandshakeKey_of_ne_nil (authentic.nonempty session member),
      orHandshakeKey_of_ne_nil (authentic.nonempty owner ownerMember)] at keys
    exact keys.symm
  obtain rfl : owner = session :=
    List.inj_on_of_nodup_map authentic.distinct ownerMember member sameKey
  exact tagged.sent_of_openFrame opened

/-! Each step keeps it. -/

section

variable {P : Primitives} {session moved : Session}
  {limiter after : RateLimiter} {event : TunnelEvent}

theorem Session.Grows.of_logs {first second : Session}
    (keys : second.keys = first.keys) {client : List ClientAction}
    (clientLog : second.clientLog = first.clientLog ++ client)
    {server : List HandlerAction}
    (handlerLog : second.handler.log = first.handler.log ++ server) :
    first.Grows second where
  keys := keys
  clientLog := by
    rw [clientLog]
    exact List.subset_append_left _ _
  handlerLog := by
    rw [handlerLog]
    exact List.subset_append_left _ _

theorem Session.Authentic.of_same {first second : Session}
    (authentic : first.Authentic) (keys : second.keys = first.keys)
    (clientLog : second.clientLog = first.clientLog)
    (handler : second.handler = first.handler) : second.Authentic where
  within := by
    rw [keys, handler]
    exact authentic.within
  held := by
    rw [handler, clientLog]
    exact authentic.held
  forwarded := by
    rw [handler, clientLog]
    exact authentic.forwarded
  returned := by
    rw [handler, clientLog]
    exact authentic.returned

theorem Session.Authentic.client {first second : Session}
    (authentic : first.Authentic) (keys : second.keys = first.keys)
    (handler : second.handler = first.handler) {actions : List ClientAction}
    (clientLog : second.clientLog = first.clientLog ++ actions)
    (returned : ∀ response, .returned response ∈ actions →
      first.Sent .dataResponse response) : second.Authentic where
  within := by
    rw [keys, handler]
    exact authentic.within
  held := by
    intro request carried
    rw [handler] at carried
    rw [clientLog]
    exact List.mem_append_left _ (authentic.held request carried)
  forwarded := by
    intro request member
    rw [handler] at member
    rw [clientLog]
    exact List.mem_append_left _ (authentic.forwarded request member)
  returned := by
    intro response member
    rw [clientLog] at member
    rw [handler]
    rcases List.mem_append.mp member with old | new
    · exact authentic.returned response old
    · have sent := returned response new
      rw [Session.Sent, if_neg nofun] at sent
      exact sent

/-- A step of the thread keeps it if the request it accepts was sent. -/
theorem Session.Authentic.serve {first : Session} {event : HandlerEvent}
    (authentic : first.Authentic) (second : Session)
    (keys : second.keys = first.keys)
    (clientLog : second.clientLog = first.clientLog)
    (move : ServeMove P first.keys first.handler event second.handler)
    (accepts : ∀ stream sessionId request rest, event = .received stream →
      recvFrame P (some first.keys.encKey) (some first.keys.macKey) stream =
        .ok (.dataRequest, sessionId, request) rest →
      first.Sent .dataRequest request) :
    second.Authentic ∧ first.Grows second := by
  obtain ⟨secondKeys, awaiting, secondLog, toClient, handler, toServer⟩ := second
  change secondKeys = _ at keys
  change secondLog = _ at clientLog
  subst keys clientLog
  cases move with
  | quiet actions deaf mute log silent within hand =>
      refine ⟨⟨within, ?_, ?_, ?_⟩, .of_logs rfl (List.append_nil _).symm log⟩
      · intro request carried
        exact authentic.held request (hand request carried)
      · intro request member
        change _ ∈ handler.log at member
        rw [log] at member
        rcases List.mem_append.mp member with old | new
        · exact authentic.forwarded request old
        · exact (silent _ new).elim
      · intro response member
        change _ ∈ handler.log
        rw [log]
        exact List.mem_append_left _ (authentic.returned response member)
  | ignore other within hand =>
      refine ⟨⟨within, ?_, authentic.forwarded, authentic.returned⟩,
        .of_logs rfl (List.append_nil _).symm (List.append_nil _).symm⟩
      intro request carried
      exact nomatch hand.symm.trans carried
  | @accept stream rest sessionId accepted received =>
      have sent := accepts stream sessionId accepted rest rfl received
      rw [Session.Sent, if_pos rfl] at sent
      refine ⟨⟨rfl, ?_, ?_, ?_⟩, .of_logs rfl (List.append_nil _).symm rfl⟩
      · intro request carried
        cases carried
        exact sent
      · intro request member
        rcases List.mem_append.mp member with old | new
        · exact authentic.forwarded request old
        · cases List.mem_singleton.mp new
      · intro response member
        exact List.mem_append_left _ (authentic.returned response member)
  | @forward forwarded response outcome hand =>
      refine ⟨⟨rfl, nofun, ?_, ?_⟩, .of_logs rfl (List.append_nil _).symm rfl⟩
      · intro request member
        rcases List.mem_append.mp member with old | new
        · exact authentic.forwarded request old
        · cases List.mem_singleton.mp new
          exact authentic.held forwarded hand
      · intro response member
        exact List.mem_append_left _ (authentic.returned response member)
  | @send msgType payload urandom fault next reply hmacs replied =>
      obtain ⟨point, frames, shape, within, idle, built⟩ :=
        sendReply_cases P first.handler first.keys msgType payload urandom fault
      obtain rfl := replied.trans shape
      refine ⟨⟨within, ?_, ?_, ?_⟩, .of_logs rfl (List.append_nil _).symm
        (List.append_assoc _ _ _)⟩
      · intro request carried
        exact nomatch idle.symm.trans carried
      · intro request member
        rcases List.mem_append.mp member with old | new
        · rcases List.mem_append.mp old with old | new
          · exact authentic.forwarded request old
          · cases List.mem_singleton.mp new
        · obtain ⟨frame, -, same⟩ := List.mem_map.mp new
          cases same
      · intro response member
        exact List.mem_append_left _
          (List.mem_append_left _ (authentic.returned response member))

theorem Session.Authentic.clientSend {requestData : Bytes}
    {urandom : GcmNonce} {fault : Option PyError}
    (authentic : session.Authentic)
    (stepped : session.clientSend P requestData urandom fault = some moved) :
    moved.Authentic ∧ session.Grows moved ∧
      moved.Sent .dataRequest requestData := by
  rcases Session.clientSend_cases stepped with rfl | ⟨frame, -, rfl⟩
  · refine ⟨authentic.client rfl rfl rfl ?_,
      .of_logs rfl rfl (List.append_nil _).symm, ?_⟩
    · intro response member
      cases List.mem_singleton.mp member
    · exact List.mem_append_right _ (List.mem_singleton.mpr rfl)
  · refine ⟨authentic.client rfl rfl (List.append_assoc _ _ _) ?_,
      .of_logs rfl (List.append_assoc _ _ _) (List.append_nil _).symm, ?_⟩
    · intro response member
      simp at member
    · apply List.mem_append_left
      exact List.mem_append_right _ (List.mem_singleton.mpr rfl)

theorem Session.Authentic.clientReceive (authentic : session.Authentic)
    (reads : ∀ sessionId response rest,
      recvFrame P (some session.keys.encKey) (some session.keys.macKey)
        session.toClient.sock = .ok (.dataResponse, sessionId, response) rest →
      session.Sent .dataResponse response)
    (stepped : session.clientReceive P = some moved) :
    moved.Authentic ∧ session.Grows moved := by
  rcases Session.clientReceive_cases stepped with
    ⟨response, sock, received, rfl⟩ | ⟨failure, sock, -, rfl⟩
  · obtain ⟨sessionId, frame⟩ := receiveReply_eq_ok.mp received
    refine ⟨authentic.client rfl rfl rfl ?_,
      .of_logs rfl rfl (List.append_nil _).symm⟩
    intro other member
    cases List.mem_singleton.mp member
    exact reads sessionId response sock frame
  · exact ⟨authentic.of_same rfl rfl rfl,
      .of_logs rfl (List.append_nil _).symm (List.append_nil _).symm⟩

theorem Session.Authentic.server {event : HandlerEvent}
    (authentic : session.Authentic)
    (reads : ∀ stream, event = .received stream →
      ∀ sessionId request rest,
        recvFrame P (some session.keys.encKey) (some session.keys.macKey)
          session.toServer.sock = .ok (.dataRequest, sessionId, request) rest →
        session.Sent .dataRequest request)
    (stepped : session.serverStep P limiter event = some (after, moved)) :
    moved.Authentic ∧ session.Grows moved ∧
      ∀ call ∈ handlerHmacs P session.handler event, moved.Tagged P call := by
  rcases Session.serverStep_cases stepped with
    ⟨stream, handler, rfl, inner, rfl⟩ | ⟨handler, deaf, inner, rfl⟩
  · have move := handlerStep_move authentic.within inner
    obtain ⟨holds, grows⟩ := authentic.serve
      { session with
        handler
        toServer := { session.toServer with
          sock := afterRecvFrame P session.keys session.toServer.sock } }
      rfl rfl move (by
        intro _ sessionId request rest same received
        cases same
        exact reads stream rfl sessionId request rest received)
    have mute : handlerHmacs P session.handler (.received stream) = [] :=
      handlerHmacs_eq_nil nofun
    refine ⟨holds, grows, ?_⟩
    rw [mute]
    exact nofun
  · have move := handlerStep_move authentic.within inner
    obtain ⟨holds, grows⟩ := authentic.serve { session with handler } rfl rfl
      move (by
        intro stream _ _ _ same
        exact absurd same (deaf stream))
    refine ⟨holds, grows, ?_⟩
    intro call member
    rcases move.hmacs with mute | ⟨msgType, payload, urandom, reply, hmacs, passed⟩
    · rw [mute] at member
      cases member
    · rw [hmacs] at member
      have sent : Session.Sent { session with handler } msgType payload := by
        rw [Session.Sent, if_neg reply]
        exact passed
      exact tagged_of_mem_sendFrameHmacs sent member

end

section

variable {P : Primitives} {s next : TunnelState}

theorem TunnelState.authentic_start (limiter : RateLimiter) :
    (TunnelState.start limiter).Authentic P where
  sessions := nofun
  nonempty := nofun
  distinct := List.nodup_nil
  calls := nofun

theorem TunnelState.Authentic.establish (authentic : s.Authentic P) (ip : Ip)
    {keys : SessionKeys} (nonempty : keys.macKey ≠ [])
    (fresh : ∀ session ∈ s.sessions, session.keys.macKey ≠ keys.macKey) :
    ({ s with sessions := s.sessions ++ [.start ip keys] } :
      TunnelState).Authentic P where
  sessions := by
    intro session member
    rcases List.mem_append.mp member with old | new
    · exact authentic.sessions session old
    · rw [List.mem_singleton.mp new]
      exact ⟨rfl, nofun, nofun, nofun⟩
  nonempty := by
    intro session member
    rcases List.mem_append.mp member with old | new
    · exact authentic.nonempty session old
    · rw [List.mem_singleton.mp new]
      exact nonempty
  distinct := by
    rw [List.map_append, List.nodup_append]
    refine ⟨authentic.distinct, List.nodup_singleton _, ?_⟩
    intro old oldMember new newMember same
    obtain ⟨session, member, rfl⟩ := List.mem_map.mp oldMember
    rw [List.map_singleton, List.mem_singleton] at newMember
    exact fresh session member (same.trans newMember)
  calls := by
    intro call member
    obtain ⟨session, inside, tagged⟩ := authentic.calls call member
    exact ⟨session, List.mem_append_left _ inside, tagged⟩

theorem TunnelState.Authentic.move (authentic : s.Authentic P) {index : ℕ}
    {session moved : Session} {limiter : RateLimiter}
    {hmacs : List (Bytes × Bytes)}
    (found : s.sessions[index]? = some session) (holds : moved.Authentic)
    (grows : session.Grows moved) (tagged : ∀ call ∈ hmacs, moved.Tagged P call) :
    ({ limiter
       sessions := s.sessions.set index moved
       hmacCalls := s.hmacCalls ++ hmacs } : TunnelState).Authentic P := by
  obtain ⟨inside, here⟩ := List.getElem?_eq_some_iff.mp found
  have placed : moved ∈ s.sessions.set index moved :=
    List.mem_set inside moved
  exact
    { sessions := by
        intro other member
        rcases List.mem_or_eq_of_mem_set member with old | rfl
        · exact authentic.sessions other old
        · exact holds
      nonempty := by
        intro other member
        rcases List.mem_or_eq_of_mem_set member with old | rfl
        · exact authentic.nonempty other old
        · rw [grows.keys]
          exact authentic.nonempty session (List.mem_of_getElem? found)
      distinct := by
        have same : (s.sessions.set index moved).map
            (fun session => session.keys.macKey) =
            s.sessions.map fun session => session.keys.macKey := by
          rw [List.map_set, grows.keys]
          apply List.ext_getElem (by simp)
          intro position left right
          rw [List.getElem_set]
          split
          · subst position
            rw [List.getElem_map, here]
          · rfl
        rw [same]
        exact authentic.distinct
      calls := by
        intro call member
        rcases List.mem_append.mp member with old | new
        · obtain ⟨owner, ownerMember, ownerTagged⟩ := authentic.calls call old
          obtain ⟨position, at_⟩ := List.mem_iff_getElem?.mp ownerMember
          by_cases same : index = position
          · subst same
            obtain rfl := Option.some.inj (found.symm.trans at_)
            exact ⟨moved, placed, ownerTagged.grows grows⟩
          · refine ⟨owner, ?_, ownerTagged⟩
            apply List.mem_of_getElem?
            rw [List.getElem?_set_ne same]
            exact at_
        · exact ⟨moved, placed, tagged call new⟩ }

theorem TunnelState.Authentic.step {event : TunnelEvent}
    (authentic : s.Authentic P) (ideal : IdealHmac P s event)
    (stepped : tunnelStep P s event = some next) : next.Authentic P := by
  rcases tunnelStep_cases stepped with
    ⟨ip, keys, rfl, rfl⟩ | ⟨index, session, limiter, moved, about, found, inner, rfl⟩
  · exact authentic.establish ip ideal.1 ideal.2
  · have member : session ∈ s.sessions := List.mem_of_getElem? found
    have holds := authentic.sessions session member
    cases event with
    | establish ip keys => cases about
    | networkToClient index bytes cuts ending =>
        cases inner
        exact authentic.move found (holds.of_same rfl rfl rfl)
          (.of_logs rfl (List.append_nil _).symm (List.append_nil _).symm) nofun
    | networkToServer index bytes cuts ending =>
        cases inner
        exact authentic.move found (holds.of_same rfl rfl rfl)
          (.of_logs rfl (List.append_nil _).symm (List.append_nil _).symm) nofun
    | clientSend index requestData urandom fault =>
        obtain ⟨after, sending, pair⟩ := Option.map_eq_some_iff.mp inner
        cases pair
        obtain ⟨kept, grows, sent⟩ := holds.clientSend sending
        refine authentic.move found kept grows ?_
        intro call called
        change call ∈ sendFrameHmacs P .dataRequest session.keys _ _ at called
        rw [← grows.keys] at called
        exact tagged_of_mem_sendFrameHmacs sent called
    | clientReceive index =>
        obtain ⟨after, read, pair⟩ := Option.map_eq_some_iff.mp inner
        cases pair
        cases about
        obtain ⟨kept, grows⟩ := holds.clientReceive (by
          intro sessionId response rest received
          exact authentic.sent_of_recvFrame member (ideal session found)
            received) read
        exact authentic.move found kept grows nofun
    | server index event =>
        cases about
        obtain ⟨kept, grows, tagged⟩ := holds.server (by
          intro stream same sessionId request rest received
          subst same
          exact authentic.sent_of_recvFrame member (ideal session found)
            received) inner
        exact authentic.move found kept grows tagged

end

/-- Whatever the network does to the streams, what either end of a session takes
from it was passed to `send_frame`, with that type, by the other end of the same
session. -/
theorem tunnel_data_authentic (P : Primitives) (limiter : RateLimiter)
    (events : List TunnelEvent) (s : TunnelState)
    (ideal : Along (tunnelStep P) (IdealHmac P) (.start limiter) events)
    (reached : run (tunnelStep P) (.start limiter) events = some s) :
    ∀ session ∈ s.sessions,
      (∀ request, .forwarded request ∈ session.handler.log →
        .passed request ∈ session.clientLog) ∧
      (∀ response, .returned response ∈ session.clientLog →
        .passed .dataResponse response ∈ session.handler.log) := by
  have authentic : s.Authentic P :=
    run_invariant_along
      (fun _ _ _ holds allowed stepped => holds.step allowed stepped)
      ideal reached (TunnelState.authentic_start limiter)
  intro session member
  have holds := authentic.sessions session member
  exact ⟨holds.forwarded, holds.returned⟩

def sampleExchange : List TunnelEvent :=
  sampleRequest ++ sampleServe [2] ++
    [.networkToClient 0 (sampleFrame .dataResponse [2]) [] .timeout,
      .clientReceive 0]

theorem tunnel_data_authentic_exchange :
    ∃ s, run (tunnelStep .transparent) (.start sampleLimiter) sampleExchange =
        some s ∧
      ∃ session ∈ s.sessions,
        .forwarded [1] ∈ session.handler.log ∧
        .returned [2] ∈ session.clientLog ∧
        .passed [1] ∈ session.clientLog ∧
        .passed .dataResponse [2] ∈ session.handler.log := by
  have ran : (run (tunnelStep .transparent) (.start sampleLimiter)
      sampleExchange).map (fun s => s.sessions.map fun session =>
        decide (.forwarded [1] ∈ session.handler.log ∧
          .returned [2] ∈ session.clientLog)) = some [true] := by
    decide +kernel
  have ideal : Along (tunnelStep .transparent) (IdealHmac .transparent)
      (.start sampleLimiter) sampleExchange := by
    decide +kernel
  obtain ⟨s, reached, logs⟩ := Option.map_eq_some_iff.mp ran
  have present : true ∈ s.sessions.map fun session =>
      decide (.forwarded [1] ∈ session.handler.log ∧
        .returned [2] ∈ session.clientLog) := by
    rw [logs]
    exact List.mem_singleton.mpr rfl
  obtain ⟨session, member, holds⟩ := List.mem_map.mp present
  obtain ⟨forwarded, returned⟩ := of_decide_eq_true holds
  have law := tunnel_data_authentic .transparent sampleLimiter sampleExchange s
    ideal reached session member
  exact ⟨s, reached, session, member, forwarded, returned,
    law.1 [1] forwarded, law.2 [2] returned⟩

end VpnTunnel.Tunnel
