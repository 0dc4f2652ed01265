import VpnTunnel.Crypto.FrameRoundTrip
import VpnTunnel.Tunnel.Conversation

namespace VpnTunnel.Tunnel

open VpnTunnel.Crypto
open VpnTunnel.Server
open VpnTunnel.Client
open VpnTunnel.Foundation

/-! A network that knows no keys but may repeat, drop and reorder the genuine
frames of a session, and send them back to where they came from. -/

def GenuineNetwork (s : TunnelState) : TunnelEvent → Prop
  | .networkToClient index bytes _ _ | .networkToServer index bytes _ _ =>
      ∀ session ∈ s.sessions[index]?,
        bytes ∈ session.clientFrames ++ session.serverFrames
  | _ => True

instance (s : TunnelState) (event : TunnelEvent) :
    Decidable (GenuineNetwork s event) :=
  match event with
  | .networkToClient index bytes _ _ | .networkToServer index bytes _ _ =>
      inferInstanceAs (Decidable (∀ session ∈ s.sessions[index]?,
        bytes ∈ session.clientFrames ++ session.serverFrames))
  | .establish _ _ | .clientSend _ _ _ _ | .clientReceive _ | .server _ _ =>
      inferInstanceAs (Decidable True)

/-- What a frame of the given type says under the session's keys. -/
def payloadOf (P : Primitives) (keys : SessionKeys) (msgType : MessageType)
    (frame : Bytes) : Option Bytes :=
  match openFrame P (frame.drop headerSize) (some keys.encKey)
    (some keys.macKey) with
  | .ok (found, _, payload) => if found = msgType then some payload else none
  | .error _ => none

/-- `send_frame` under the session's keys made the frame. -/
def Built (P : Primitives) (keys : SessionKeys) (msgType : MessageType)
    (payload frame : Bytes) : Prop :=
  ∃ urandom, buildFrame P msgType keys.sessionId payload (some keys.encKey)
    (some keys.macKey) urandom = .ok frame

section

variable {P : Primitives} {keys : SessionKeys} {msgType : MessageType}
  {payload frame : Bytes}

theorem Built.reads (built : Built P keys msgType payload frame) :
    Reads Sock.incoming (recvFrame P (some keys.encKey) (some keys.macKey)) frame
      (msgType, keys.sessionId, payload) := by
  obtain ⟨urandom, built⟩ := built
  exact reads_recvFrame_of_buildFrame built

theorem Built.payloadOf (built : Built P keys msgType payload frame)
    (wanted : MessageType) :
    payloadOf P keys wanted frame =
      if msgType = wanted then some payload else none := by
  obtain ⟨urandom, built⟩ := built
  obtain ⟨sidSize, encPayload, nonce, protect, -, rfl⟩ :=
    buildFrame_eq_ok.mp built
  have opened := openFrame_frameBody msgType (some keys.macKey) sidSize protect
  rw [Tunnel.payloadOf, List.append_assoc, ← packHeader_length, List.drop_left,
    opened]

end

/-! A stream of whole frames, of which some have been read. -/

/-- The unread frames are on the socket, and the frames read so far, in the
order of their arrival, said `heard`. -/
def Link.Heard (P : Primitives) (keys : SessionKeys) (msgType : MessageType)
    (link : Link) (heard : List Bytes) : Prop :=
  ∃ count ≤ link.arrivals.length,
    link.sock.incoming = (link.arrivals.drop count).flatten ∧
    heard = (link.arrivals.take count).filterMap (payloadOf P keys msgType)

section

variable {P : Primitives} {keys : SessionKeys} {msgType : MessageType}
  {link : Link} {heard : List Bytes}

theorem Link.heard_empty : Link.empty.Heard P keys msgType [] :=
  ⟨0, le_rfl, rfl, rfl⟩

theorem Link.Heard.deliver (holds : link.Heard P keys msgType heard)
    (bytes : Bytes) (cuts : List ℕ) (ending : StreamEnd) :
    (link.deliver bytes cuts ending).Heard P keys msgType heard := by
  obtain ⟨count, within, unread, read⟩ := holds
  refine ⟨count, ?_, ?_, ?_⟩
  · change count ≤ (link.arrivals ++ [bytes]).length
    rw [List.length_append]
    omega
  · change link.sock.incoming ++ bytes =
      ((link.arrivals ++ [bytes]).drop count).flatten
    rw [List.drop_append_of_le_length within, List.flatten_append, unread,
      List.flatten_singleton]
  · change heard = ((link.arrivals ++ [bytes]).take count).filterMap _
    rw [List.take_append_of_le_length within]
    exact read

/-- `recv_frame` meets the end of the stream, or the next frame to arrive. -/
theorem Link.Heard.recvFrame_cases (holds : link.Heard P keys msgType heard)
    (genuine : ∀ frame ∈ link.arrivals, ∃ found payload,
      Built P keys found payload frame) :
    (∃ failure, recvFrame P (some keys.encKey) (some keys.macKey) link.sock =
      .error failure link.sock) ∨
    ∃ found payload rest,
      recvFrame P (some keys.encKey) (some keys.macKey) link.sock =
        .ok (found, keys.sessionId, payload) rest ∧
      ({ link with sock := rest } : Link).Heard P keys msgType
        (heard ++ if found = msgType then [payload] else []) := by
  obtain ⟨count, within, unread, read⟩ := holds
  rcases within.lt_or_eq with more | all
  · right
    have next : link.arrivals.drop count =
        link.arrivals[count] :: link.arrivals.drop (count + 1) :=
      List.drop_eq_getElem_cons more
    obtain ⟨found, payload, built⟩ :=
      genuine link.arrivals[count] (List.getElem_mem more)
    obtain ⟨rest, received, left⟩ := built.reads link.sock
      (link.arrivals.drop (count + 1)).flatten
      (by rw [unread, next, List.flatten_cons])
    refine ⟨found, payload, rest, received, count + 1, more, left, ?_⟩
    rw [List.take_add_one, List.filterMap_append, ← read]
    rw [List.getElem?_eq_getElem more, Option.toList_some]
    rw [List.filterMap_cons, built.payloadOf]
    by_cases wanted : found = msgType
    · rw [if_pos wanted, if_pos wanted]
      rfl
    · rw [if_neg wanted, if_neg wanted]
      rfl
  · left
    apply recvFrame_of_exhausted
    rw [unread, all, List.drop_length, List.flatten_nil]

end

/-! The invariant. -/

structure Session.InOrder (P : Primitives) (session : Session) : Prop where
  within : Within session.keys session.handler.point
  clientFrames : ∀ frame ∈ session.clientFrames, ∃ payload,
    .passed payload ∈ session.clientLog ∧
    Built P session.keys .dataRequest payload frame
  serverFrames : ∀ frame ∈ session.serverFrames, ∃ msgType payload,
    msgType ≠ .dataRequest ∧
    .passed msgType payload ∈ session.handler.log ∧
    Built P session.keys msgType payload frame
  arrivals : ∀ frame ∈ session.toClient.arrivals ++ session.toServer.arrivals,
    ∃ msgType payload, Built P session.keys msgType payload frame
  accepted : session.toServer.Heard P session.keys .dataRequest session.accepted
  returned : session.toClient.Heard P session.keys .dataResponse session.returned

theorem Session.inOrder_start (P : Primitives) (ip : Ip) (keys : SessionKeys) :
    (Session.start ip keys).InOrder P where
  within := rfl
  clientFrames := nofun
  serverFrames := nofun
  arrivals := nofun
  accepted := Link.heard_empty
  returned := Link.heard_empty

section

variable {P : Primitives} {session moved : Session}
  {limiter after : RateLimiter}

theorem Session.InOrder.built (inOrder : session.InOrder P) {frame : Bytes}
    (genuine : frame ∈ session.clientFrames ++ session.serverFrames) :
    ∃ msgType payload, Built P session.keys msgType payload frame := by
  rcases List.mem_append.mp genuine with client | server
  · obtain ⟨payload, -, built⟩ := inOrder.clientFrames frame client
    exact ⟨.dataRequest, payload, built⟩
  · obtain ⟨msgType, payload, -, -, built⟩ := inOrder.serverFrames frame server
    exact ⟨msgType, payload, built⟩

theorem Session.InOrder.toClientBuilt (inOrder : session.InOrder P) :
    ∀ frame ∈ session.toClient.arrivals, ∃ msgType payload,
      Built P session.keys msgType payload frame := by
  intro frame member
  exact inOrder.arrivals frame (List.mem_append_left _ member)

theorem Session.InOrder.toServerBuilt (inOrder : session.InOrder P) :
    ∀ frame ∈ session.toServer.arrivals, ∃ msgType payload,
      Built P session.keys msgType payload frame := by
  intro frame member
  exact inOrder.arrivals frame (List.mem_append_right _ member)

theorem Session.InOrder.networkToClient (inOrder : session.InOrder P)
    {bytes : Bytes} (genuine : bytes ∈ session.clientFrames ++ session.serverFrames)
    (cuts : List ℕ) (ending : StreamEnd) :
    ({ session with
        toClient := session.toClient.deliver bytes cuts ending } :
      Session).InOrder P :=
  { inOrder with
    arrivals := by
      intro frame member
      rcases List.mem_append.mp member with client | server
      · rcases List.mem_append.mp client with old | new
        · exact inOrder.toClientBuilt frame old
        · rw [List.mem_singleton.mp new]
          exact inOrder.built genuine
      · exact inOrder.toServerBuilt frame server
    returned := inOrder.returned.deliver bytes cuts ending }

theorem Session.InOrder.networkToServer (inOrder : session.InOrder P)
    {bytes : Bytes} (genuine : bytes ∈ session.clientFrames ++ session.serverFrames)
    (cuts : List ℕ) (ending : StreamEnd) :
    ({ session with
        toServer := session.toServer.deliver bytes cuts ending } :
      Session).InOrder P :=
  { inOrder with
    arrivals := by
      intro frame member
      rcases List.mem_append.mp member with client | server
      · exact inOrder.toClientBuilt frame client
      · rcases List.mem_append.mp server with old | new
        · exact inOrder.toServerBuilt frame old
        · rw [List.mem_singleton.mp new]
          exact inOrder.built genuine
    accepted := inOrder.accepted.deliver bytes cuts ending }

/-- The client's log grows by frames it built and by what it heard. -/
theorem Session.InOrder.client (inOrder : session.InOrder P) {awaiting : Bool}
    {sock : Sock} (actions : List ClientAction)
    (frames : ∀ frame, .framed frame ∈ actions → ∃ payload,
      .passed payload ∈ actions ∧
      Built P session.keys .dataRequest payload frame)
    (heard : ({ session.toClient with sock } : Link).Heard P session.keys
      .dataResponse (session.returned ++ actions.filterMap returnValue)) :
    ({ session with
        awaiting
        clientLog := session.clientLog ++ actions
        toClient := { session.toClient with sock } } : Session).InOrder P :=
  { inOrder with
    clientFrames := by
      intro frame member
      have added := mem_filterMap_clientFrame.mp member
      rcases List.mem_append.mp added with old | new
      · obtain ⟨payload, passed, built⟩ :=
          inOrder.clientFrames frame (mem_filterMap_clientFrame.mpr old)
        exact ⟨payload, List.mem_append_left _ passed, built⟩
      · obtain ⟨payload, passed, built⟩ := frames frame new
        exact ⟨payload, List.mem_append_right _ passed, built⟩
    returned := by
      change Link.Heard P session.keys .dataResponse _
        ((session.clientLog ++ actions).filterMap returnValue)
      rw [List.filterMap_append]
      exact heard }

theorem Session.InOrder.clientSend {requestData : Bytes}
    {urandom : GcmNonce} {fault : Option PyError} (inOrder : session.InOrder P)
    (stepped : session.clientSend P requestData urandom fault = some moved) :
    moved.InOrder P := by
  have unheard := inOrder.returned
  rcases Session.clientSend_cases stepped with rfl | ⟨frame, built, rfl⟩
  · refine inOrder.client [.passed requestData] ?_ ?_
    · intro frame member
      cases List.mem_singleton.mp member
    · rw [← List.append_nil session.returned] at unheard
      exact unheard
  · rw [List.append_assoc]
    refine inOrder.client [.passed requestData, .framed frame] ?_ ?_
    · intro other member
      obtain rfl : other = frame := by simpa using member
      exact ⟨requestData, List.mem_cons_self, urandom, built⟩
    · rw [← List.append_nil session.returned] at unheard
      exact unheard

theorem Session.InOrder.clientReceive (inOrder : session.InOrder P)
    (stepped : session.clientReceive P = some moved) : moved.InOrder P := by
  have heard := inOrder.returned.recvFrame_cases inOrder.toClientBuilt
  rcases Session.clientReceive_cases stepped with
    ⟨response, sock, received, rfl⟩ | ⟨failure, sock, failed, rfl⟩
  · obtain ⟨sessionId, frame⟩ := receiveReply_eq_ok.mp received
    refine inOrder.client [.returned response] ?_ ?_
    · intro other member
      cases List.mem_singleton.mp member
    · rcases heard with ⟨_, silent⟩ | ⟨found, payload, rest, read, next⟩
      · rw [silent] at frame
        cases frame
      · rw [read] at frame
        cases frame
        exact next
  · have quiet : ({ session.toClient with sock } : Link).Heard P session.keys
        .dataResponse session.returned := by
      rcases receiveReply_eq_error failed with
        ⟨earlier, broken⟩ | ⟨msgType, sessionId, payload, frame, other⟩
      · rcases heard with ⟨_, silent⟩ | ⟨found, payload, rest, read, -⟩
        · rw [silent] at broken
          cases broken
          exact inOrder.returned
        · rw [read] at broken
          cases broken
      · rcases heard with ⟨_, silent⟩ | ⟨found, payload, rest, read, next⟩
        · rw [silent] at frame
          cases frame
        · rw [read] at frame
          cases frame
          rw [if_neg other, List.append_nil] at next
          exact next
    exact { inOrder with returned := quiet }

theorem Session.InOrder.thread (inOrder : session.InOrder P)
    {handler : Handler} {sock : Sock} {actions : List HandlerAction}
    (within : Within session.keys handler.point)
    (log : handler.log = session.handler.log ++ actions)
    (frames : ∀ frame, .framed frame ∈ actions → ∃ msgType payload,
      msgType ≠ .dataRequest ∧ .passed msgType payload ∈ actions ∧
      Built P session.keys msgType payload frame)
    (heard : ({ session.toServer with sock } : Link).Heard P session.keys
      .dataRequest (session.accepted ++ actions.filterMap acceptance)) :
    ({ session with
        handler
        toServer := { session.toServer with sock } } : Session).InOrder P :=
  { inOrder with
    within
    serverFrames := by
      intro frame member
      have added := mem_filterMap_serverFrame.mp member
      change _ ∈ handler.log at added
      change ∃ msgType payload, _ ∧ _ ∈ handler.log ∧ _
      rw [log] at added ⊢
      rcases List.mem_append.mp added with old | new
      · obtain ⟨msgType, payload, reply, passed, built⟩ :=
          inOrder.serverFrames frame (mem_filterMap_serverFrame.mpr old)
        exact ⟨msgType, payload, reply, List.mem_append_left _ passed, built⟩
      · obtain ⟨msgType, payload, reply, passed, built⟩ := frames frame new
        exact ⟨msgType, payload, reply, List.mem_append_right _ passed, built⟩
    accepted := by
      change Link.Heard P session.keys .dataRequest _
        (handler.log.filterMap acceptance)
      rw [log, List.filterMap_append]
      exact heard }

theorem afterRecvFrame_of_ok {keys : SessionKeys} {sock rest : Sock}
    {frame : MessageType × Bytes × Bytes}
    (received : recvFrame P (some keys.encKey) (some keys.macKey) sock =
      .ok frame rest) : afterRecvFrame P keys sock = rest := by
  rw [afterRecvFrame, received]

theorem afterRecvFrame_of_error {keys : SessionKeys} {sock rest : Sock}
    {failure : PyError}
    (failed : recvFrame P (some keys.encKey) (some keys.macKey) sock =
      .error failure rest) : afterRecvFrame P keys sock = rest := by
  rw [afterRecvFrame, failed]

/-- The serving thread reads the next frame to arrive. -/
theorem Session.InOrder.serverReceive (inOrder : session.InOrder P)
    {handler : Handler}
    (inner : handlerStep P limiter session.handler
      (.received session.toServer.sock) = some (after, handler)) :
    ({ session with
        handler
        toServer := { session.toServer with
          sock := afterRecvFrame P session.keys session.toServer.sock } } :
      Session).InOrder P := by
  have heard := inOrder.accepted.recvFrame_cases inOrder.toServerBuilt
  have move := handlerStep_move inOrder.within inner
  cases move with
  | quiet actions deaf mute log silent within hand =>
      exact absurd rfl (deaf session.toServer.sock)
  | ignore other within hand =>
      refine inOrder.thread within (List.append_nil _).symm nofun ?_
      rcases heard with ⟨_, silent⟩ | ⟨found, payload, rest, read, next⟩
      · rw [afterRecvFrame_of_error silent]
        exact (List.append_nil session.accepted).symm ▸ inOrder.accepted
      · have reply : found ≠ .dataRequest := by
          rintro rfl
          exact other _ _ _ read
        rw [if_neg reply] at next
        rw [afterRecvFrame_of_ok read]
        exact next
  | @accept stream rest sessionId request received =>
      refine inOrder.thread rfl rfl ?_ ?_
      · intro frame member
        cases List.mem_singleton.mp member
      · rw [afterRecvFrame_of_ok received]
        rcases heard with ⟨_, silent⟩ | ⟨found, payload, rest, read, next⟩
        · rw [silent] at received
          cases received
        · rw [read] at received
          cases received
          exact next

/-- Any other step of the thread leaves the stream and what it accepted. -/
theorem Session.InOrder.serve (inOrder : session.InOrder P)
    {handler : Handler} {event : HandlerEvent}
    (deaf : ∀ stream, event ≠ .received stream)
    (inner : handlerStep P limiter session.handler event =
      some (after, handler)) :
    ({ session with handler } : Session).InOrder P := by
  have unheard : session.toServer.Heard P session.keys .dataRequest
      (session.accepted ++ []) :=
    (List.append_nil session.accepted).symm ▸ inOrder.accepted
  have move := handlerStep_move inOrder.within inner
  cases move with
  | quiet actions deaf mute log silent within hand =>
      have nothing : actions.filterMap acceptance = [] := by
        rw [List.filterMap_eq_nil_iff]
        intro action member
        have quiet := silent action member
        cases action <;> first | rfl | exact quiet.elim
      refine inOrder.thread within log ?_ (nothing ▸ unheard)
      intro frame member
      exact (silent _ member).elim
  | @ignore stream point other within hand => exact absurd rfl (deaf stream)
  | @accept stream rest sessionId request received =>
      exact absurd rfl (deaf stream)
  | @forward forwarded response outcome hand =>
      refine inOrder.thread rfl rfl ?_ unheard
      intro frame member
      cases List.mem_singleton.mp member
  | @send msgType payload urandom fault next reply hmacs replied =>
      obtain ⟨point, frames, shape, within, -, built⟩ :=
        sendReply_cases P session.handler session.keys msgType payload urandom
          fault
      rw [List.append_assoc] at shape
      obtain rfl := replied.trans shape
      refine inOrder.thread within rfl ?_ ?_
      · intro frame member
        have made : frame ∈ frames := by simpa using member
        exact ⟨msgType, payload, reply, List.mem_cons_self, urandom,
          built frame made⟩
      · have nothing : ([HandlerAction.passed msgType payload] ++
            frames.map HandlerAction.framed).filterMap acceptance = [] := by
          rw [List.filterMap_eq_nil_iff]
          intro action member
          rcases List.mem_append.mp member with passed | framed
          · rw [List.mem_singleton.mp passed]
            rfl
          · obtain ⟨frame, -, rfl⟩ := List.mem_map.mp framed
            rfl
        rw [nothing]
        exact unheard

end

theorem inOrder_step {P : Primitives} {s next : TunnelState}
    {event : TunnelEvent} (inOrder : ∀ session ∈ s.sessions, session.InOrder P)
    (genuine : GenuineNetwork s event)
    (stepped : tunnelStep P s event = some next) :
    ∀ session ∈ next.sessions, session.InOrder P := by
  rcases tunnelStep_cases stepped with
    ⟨ip, keys, rfl, rfl⟩ | ⟨index, session, limiter, moved, about, found, inner, rfl⟩
  · intro session member
    rcases List.mem_append.mp member with old | new
    · exact inOrder session old
    · rw [List.mem_singleton.mp new]
      exact Session.inOrder_start P ip keys
  · have holds := inOrder session (List.mem_of_getElem? found)
    have kept : moved.InOrder P := by
      cases event with
      | establish ip keys => cases about
      | networkToClient index bytes cuts ending =>
          cases about
          cases inner
          exact holds.networkToClient (genuine session found) cuts ending
      | networkToServer index bytes cuts ending =>
          cases about
          cases inner
          exact holds.networkToServer (genuine session found) cuts ending
      | clientSend index requestData urandom fault =>
          obtain ⟨after, sending, pair⟩ := Option.map_eq_some_iff.mp inner
          cases pair
          exact holds.clientSend sending
      | clientReceive index =>
          obtain ⟨after, reading, pair⟩ := Option.map_eq_some_iff.mp inner
          cases pair
          exact holds.clientReceive reading
      | server index event =>
          rcases Session.serverStep_cases inner with
            ⟨stream, handler, rfl, moves, rfl⟩ | ⟨handler, deaf, moves, rfl⟩
          · exact holds.serverReceive moves
          · exact holds.serve deaf moves
    intro other member
    rcases List.mem_or_eq_of_mem_set member with old | rfl
    · exact inOrder other old
    · exact kept

/-- What was said in the frames that an end put on the wire, in sending order. -/
def Session.sentRequests (P : Primitives) (session : Session) : List Bytes :=
  session.clientFrames.filterMap (payloadOf P session.keys .dataRequest)

def Session.sentResponses (P : Primitives) (session : Session) : List Bytes :=
  session.serverFrames.filterMap (payloadOf P session.keys .dataResponse)

/-- What either end accepts follows what the other end sent: nothing twice,
nothing out of order. -/
def Session.FollowsSending (P : Primitives) (session : Session) : Prop :=
  List.Sublist session.accepted (session.sentRequests P) ∧
    List.Sublist session.returned (session.sentResponses P)

instance (P : Primitives) (session : Session) :
    Decidable (session.FollowsSending P) :=
  inferInstanceAs (Decidable (_ ∧ _))

/-- The two ends accept exactly the genuine frames of their type in the order in
which the network delivered them, as often as it delivered them.  So they follow
the sending order where the network does. -/
theorem accepted_frames_follow_delivery (P : Primitives) (limiter : RateLimiter)
    (events : List TunnelEvent) (s : TunnelState)
    (genuine : Along (tunnelStep P) GenuineNetwork (.start limiter) events)
    (reached : run (tunnelStep P) (.start limiter) events = some s) :
    ∀ session ∈ s.sessions,
      session.toServer.Heard P session.keys .dataRequest session.accepted ∧
      session.toClient.Heard P session.keys .dataResponse session.returned ∧
      (∀ frame ∈ session.toServer.arrivals ++ session.toClient.arrivals,
        ∃ msgType payload, Built P session.keys msgType payload frame) ∧
      (List.Sublist session.toServer.arrivals session.clientFrames →
        List.Sublist session.accepted (session.sentRequests P)) ∧
      (List.Sublist session.toClient.arrivals session.serverFrames →
        List.Sublist session.returned (session.sentResponses P)) := by
  have inOrder : ∀ session ∈ s.sessions, session.InOrder P :=
    run_invariant_along
      (fun _ _ _ holds allowed stepped => inOrder_step holds allowed stepped)
      genuine reached nofun
  intro session member
  have holds := inOrder session member
  obtain ⟨requests, -, -, accepted⟩ := holds.accepted
  obtain ⟨responses, -, -, returned⟩ := holds.returned
  refine ⟨holds.accepted, holds.returned, ?_, ?_, ?_⟩
  · intro frame arrived
    rcases List.mem_append.mp arrived with server | client
    · exact holds.toServerBuilt frame server
    · exact holds.toClientBuilt frame client
  · intro delivered
    rw [accepted]
    exact ((List.take_sublist _ _).trans delivered).filterMap _
  · intro delivered
    rw [returned]
    exact ((List.take_sublist _ _).trans delivered).filterMap _

/-- The request frame is delivered a second time after its exchange. -/
def sampleReplay : List TunnelEvent :=
  sampleRequest ++ sampleServe [2] ++
    [.networkToServer 0 (sampleFrame .dataRequest [1]) [] .timeout] ++
    sampleServe [2]

/-- One sent request, accepted and forwarded twice. -/
theorem accepted_frames_repeat :
    ¬ ∀ (P : Primitives) (limiter : RateLimiter) (events : List TunnelEvent)
      (s : TunnelState),
      Along (tunnelStep P) GenuineNetwork (.start limiter) events →
      run (tunnelStep P) (.start limiter) events = some s →
      ∀ session ∈ s.sessions, session.FollowsSending P := by
  intro claimed
  have ran : (run (tunnelStep .transparent) (.start sampleLimiter)
      sampleReplay).map (fun s => s.sessions.map fun session =>
        decide (session.FollowsSending .transparent)) = some [false] := by
    decide +kernel
  have genuine : Along (tunnelStep .transparent) GenuineNetwork
      (.start sampleLimiter) sampleReplay := by
    decide +kernel
  obtain ⟨s, reached, follows⟩ := Option.map_eq_some_iff.mp ran
  have present : false ∈ s.sessions.map fun session =>
      decide (session.FollowsSending .transparent) := by
    rw [follows]
    exact List.mem_singleton.mpr rfl
  obtain ⟨session, member, fails⟩ := List.mem_map.mp present
  exact of_decide_eq_false fails
    (claimed .transparent sampleLimiter sampleReplay s genuine reached session
      member)

/-- The same run under the law: both deliveries of the one frame are accepted. -/
theorem accepted_frames_follow_delivery_replay :
    ∃ s, run (tunnelStep .transparent) (.start sampleLimiter) sampleReplay =
        some s ∧
      ∃ session ∈ s.sessions, session.accepted = [[1], [1]] ∧
        session.toServer.Heard .transparent session.keys .dataRequest
          session.accepted ∧
        session.toClient.Heard .transparent session.keys .dataResponse
          session.returned := by
  have ran : (run (tunnelStep .transparent) (.start sampleLimiter)
      sampleReplay).map (fun s => s.sessions.map Session.accepted) =
        some [[[1], [1]]] := by
    decide +kernel
  have genuine : Along (tunnelStep .transparent) GenuineNetwork
      (.start sampleLimiter) sampleReplay := by
    decide +kernel
  obtain ⟨s, reached, accepted⟩ := Option.map_eq_some_iff.mp ran
  have present : [[1], [1]] ∈ s.sessions.map Session.accepted := by
    rw [accepted]
    exact List.mem_singleton.mpr rfl
  obtain ⟨session, member, twice⟩ := List.mem_map.mp present
  have law := accepted_frames_follow_delivery .transparent sampleLimiter
    sampleReplay s genuine reached session member
  exact ⟨s, reached, session, member, twice, law.1, law.2.1⟩

end VpnTunnel.Tunnel
