import VpnTunnel.Tunnel.Session

namespace VpnTunnel.Tunnel

open VpnTunnel.Crypto
open VpnTunnel.Server
open VpnTunnel.Client

/-! What one step of the serving thread means for the conversation: which keys
it stays under, which request it has in hand, and which frames it speaks of. -/

/-- Past the handshake, and under these keys while it serves. -/
def Within (keys : SessionKeys) : HandlerPoint → Prop
  | .accessControl | .connectionCap | .handshake => False
  | .serving current _ => current = keys
  | .release | .close | .closed => True

/-- The request that the loop carries to `forward_request`. -/
def inHand : HandlerPoint → Option Bytes
  | .serving _ (.touch request) | .serving _ (.findBucket request)
  | .serving _ (.consume request) | .serving _ (.forward request) =>
      some request
  | _ => none

/-- Log entries that are not about frames. -/
def Silent : HandlerAction → Prop
  | .admitted | .granted | .released => True
  | _ => False

inductive ServeMove (P : Primitives) (keys : SessionKeys) (h : Handler) :
    HandlerEvent → Handler → Prop
  | quiet {event : HandlerEvent} {next : Handler} (actions : List HandlerAction)
      (deaf : ∀ stream, event ≠ .received stream)
      (mute : ∀ urandom fault, event ≠ .sent urandom fault)
      (log : next.log = h.log ++ actions)
      (silent : ∀ action ∈ actions, Silent action)
      (within : Within keys next.point)
      (hand : ∀ request, inHand next.point = some request →
        inHand h.point = some request) : ServeMove P keys h event next
  | ignore {stream : Sock} {point : HandlerPoint}
      (other : ∀ sessionId request rest,
        recvFrame P (some keys.encKey) (some keys.macKey) stream ≠
          .ok (.dataRequest, sessionId, request) rest)
      (within : Within keys point) (hand : inHand point = none) :
      ServeMove P keys h (.received stream) (h.goto point)
  | accept {stream rest : Sock} {sessionId request : Bytes}
      (received : recvFrame P (some keys.encKey) (some keys.macKey) stream =
        .ok (.dataRequest, sessionId, request) rest) :
      ServeMove P keys h (.received stream)
        ((h.record (.accepted request)).goto (.serving keys (.touch request)))
  | forward {request response : Bytes} {outcome : Except String Bytes}
      (hand : inHand h.point = some request) :
      ServeMove P keys h (.forwarded outcome)
        ((h.record (.forwarded request)).goto (.serving keys (.respond response)))
  | send (msgType : MessageType) (payload : Bytes) {urandom : GcmNonce}
      {fault : Option PyError} {next : Handler} (reply : msgType ≠ .dataRequest)
      (hmacs : handlerHmacs P h (.sent urandom fault) =
        sendFrameHmacs P msgType keys payload urandom)
      (replied : next = h.sendReply P keys msgType payload urandom fault) :
      ServeMove P keys h (.sent urandom fault) next

section

variable {P : Primitives} {keys : SessionKeys} {limiter after : RateLimiter}
  {h next : Handler}

theorem handlerHmacs_eq_nil {event : HandlerEvent}
    (mute : ∀ urandom fault, event ≠ .sent urandom fault) :
    handlerHmacs P h event = [] := by
  unfold handlerHmacs
  split
  case h_1 urandom fault _ => exact absurd rfl (mute urandom fault)
  case h_2 urandom fault _ => exact absurd rfl (mute urandom fault)
  case h_3 => rfl

theorem sendReply_cases (P : Primitives) (h : Handler) (keys : SessionKeys)
    (msgType : MessageType) (payload : Bytes) (urandom : GcmNonce)
    (fault : Option PyError) :
    ∃ (point : HandlerPoint) (frames : List Bytes),
      h.sendReply P keys msgType payload urandom fault =
        { h with
          point
          log := h.log ++ [.passed msgType payload] ++
            frames.map HandlerAction.framed } ∧
      Within keys point ∧ inHand point = none ∧
      ∀ frame ∈ frames, buildFrame P msgType keys.sessionId payload
        (some keys.encKey) (some keys.macKey) urandom = .ok frame := by
  unfold Handler.sendReply
  dsimp only
  split
  case h_1 failure failed =>
    refine ⟨.release, [], ?_, trivial, rfl, nofun⟩
    rw [List.map_nil, List.append_nil]
    rfl
  case h_2 frame built =>
    have only : ∀ other ∈ [frame], buildFrame P msgType keys.sessionId payload
        (some keys.encKey) (some keys.macKey) urandom = .ok other := by
      intro other member
      rw [List.mem_singleton.mp member]
      exact built
    cases fault with
    | none => exact ⟨.serving keys .idleCheck, [frame], rfl, rfl, rfl, only⟩
    | some failure => exact ⟨.release, [frame], rfl, trivial, rfl, only⟩

theorem ServeMove.goto {event : HandlerEvent} {point : HandlerPoint}
    (deaf : ∀ stream, event ≠ .received stream)
    (mute : ∀ urandom fault, event ≠ .sent urandom fault)
    (within : Within keys point)
    (hand : ∀ request, inHand point = some request →
      inHand h.point = some request) :
    ServeMove P keys h event (h.goto point) :=
  .quiet [] deaf mute (List.append_nil h.log).symm nofun within hand

theorem serveStep_move {point : ServePoint} {event : HandlerEvent}
    (here : h.point = .serving keys point)
    (stepped : serveStep P limiter h keys point event = some (after, next)) :
    ServeMove P keys h event next := by
  unfold serveStep at stepped
  split at stepped
  case h_1 now =>
    split at stepped
    all_goals
      cases stepped
      exact .goto nofun nofun (by first | rfl | trivial) nofun
  case h_2 stream =>
    split at stepped
    case h_1 failed =>
      cases stepped
      exact .ignore (by simp [failed]) trivial rfl
    case h_2 msgType sessionId request rest received =>
      split at stepped
      case isTrue other =>
        cases stepped
        refine .ignore ?_ rfl rfl
        intro _ _ _ same
        rw [received] at same
        cases same
        exact other rfl
      case isFalse same =>
        cases stepped
        obtain rfl := not_not.mp same
        exact .accept received
  case h_3 request now =>
    cases stepped
    refine .goto nofun nofun rfl ?_
    intro held same
    rw [here]
    exact same
  case h_4 request now =>
    cases stepped
    refine .goto nofun nofun rfl ?_
    intro held same
    rw [here]
    exact same
  case h_5 request now =>
    dsimp only at stepped
    split at stepped
    · cases stepped
      refine .quiet [.granted] nofun nofun rfl ?_ rfl ?_
      · intro action member
        rw [List.mem_singleton.mp member]
        trivial
      · intro held same
        rw [here]
        exact same
    · cases stepped
      exact .goto nofun nofun rfl nofun
  case h_6 urandom fault =>
    obtain ⟨-, rfl⟩ := Prod.mk.inj (Option.some.inj stepped)
    exact .send .error rateLimitMessage nofun
      (by simp only [handlerHmacs, here]) rfl
  case h_7 request outcome =>
    cases stepped
    exact .forward (by rw [here]; rfl)
  case h_8 response urandom fault =>
    obtain ⟨-, rfl⟩ := Prod.mk.inj (Option.some.inj stepped)
    exact .send .dataResponse response nofun
      (by simp only [handlerHmacs, here]) rfl
  case h_9 => cases stepped

theorem handlerStep_move {event : HandlerEvent} (within : Within keys h.point)
    (stepped : handlerStep P limiter h event = some (after, next)) :
    ServeMove P keys h event next := by
  unfold handlerStep at stepped
  split at stepped
  case h_1 failure =>
    obtain ⟨caught, raised, pair⟩ := Option.map_eq_some_iff.mp stepped
    cases pair
    unfold Handler.afterException at raised
    split at raised
    case h_1 here | h_2 here | h_3 here =>
      rw [here] at within
      exact within.elim
    case h_4 =>
      cases raised
      exact .goto nofun nofun trivial nofun
    all_goals cases raised
  case h_2 =>
    split at stepped
    case h_1 here _ | h_2 here _ | h_3 here _ =>
      rw [here] at within
      exact within.elim
    case h_4 current point here _ =>
      rw [here] at within
      obtain rfl : current = keys := within
      exact serveStep_move here stepped
    case h_5 =>
      cases stepped
      refine .quiet [.released] nofun nofun rfl ?_ trivial nofun
      intro action member
      rw [List.mem_singleton.mp member]
      trivial
    case h_6 =>
      cases stepped
      exact .goto nofun nofun trivial nofun
    case h_7 => cases stepped

/-- A step tags a body only for a `send_frame` call that it logs. -/
theorem ServeMove.hmacs {event : HandlerEvent}
    (move : ServeMove P keys h event next) :
    handlerHmacs P h event = [] ∨
    ∃ msgType payload urandom, msgType ≠ .dataRequest ∧
      handlerHmacs P h event =
        sendFrameHmacs P msgType keys payload urandom ∧
      .passed msgType payload ∈ next.log := by
  cases move with
  | quiet actions deaf mute log silent within hand =>
      exact .inl (handlerHmacs_eq_nil mute)
  | ignore other within hand => exact .inl (handlerHmacs_eq_nil nofun)
  | accept received => exact .inl (handlerHmacs_eq_nil nofun)
  | forward hand => exact .inl (handlerHmacs_eq_nil nofun)
  | @send msgType payload urandom fault next reply hmacs replied =>
      obtain ⟨point, frames, shape, -⟩ :=
        sendReply_cases P h keys msgType payload urandom fault
      refine .inr ⟨msgType, payload, urandom, reply, hmacs, ?_⟩
      rw [replied, shape]
      apply List.mem_append_left
      exact List.mem_append_right _ (List.mem_singleton.mpr rfl)

end

end VpnTunnel.Tunnel
