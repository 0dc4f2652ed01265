import VpnTunnel.Crypto.FrameRoundTrip
import VpnTunnel.Server.HandleClient

namespace VpnTunnel.Server

open VpnTunnel.Crypto
open VpnTunnel.Foundation

/-! The serve loop on the frames of one client.  The limiter is shared, so each
step meets it as the other threads have left it. -/

def threadStep (P : Primitives) (h : Handler)
    (event : RateLimiter × HandlerEvent) : Option Handler :=
  (handlerStep P event.1 h event.2).map Prod.snd

/-- What a call of `forward_request` gives: bytes, or an exception with its text. -/
inductive ForwardOutcome
  | returned (responseData : Bytes)
  | raised (text : PyText)

/-- The step of the handler: the 500 response cannot be made of a text that does
not encode. -/
def ForwardOutcome.event : ForwardOutcome → HandlerEvent
  | .returned responseData => .forwarded (.ok responseData)
  | .raised text =>
      match text.scalars with
      | some failure => .forwarded (.error failure)
      | none => .raised (.valueError "surrogates not allowed")

def ForwardOutcome.response : ForwardOutcome → Option Bytes
  | .returned responseData => some responseData
  | .raised text => text.scalars.map forwardErrorResponse

/-- One frame of the client, and what the loop meets while it deals with it. -/
structure Turn where
  msgType : MessageType
  sessionId : Bytes
  payload : Bytes
  urandom : GcmNonce
  cuts : List ℕ
  idle : RateLimiter × ℚ
  touched : ℚ
  found : ℚ
  rate : RateLimiter × ℚ
  outcome : ForwardOutcome
  replyNonce : GcmNonce

section

variable (P : Primitives) (keys : SessionKeys) (ip : Ip)

namespace Turn

variable (turn : Turn)

/-- The client's `send_frame`. -/
def build : Except PyError Bytes :=
  buildFrame P turn.msgType turn.sessionId turn.payload (some keys.encKey)
    (some keys.macKey) turn.urandom

def frame : Bytes :=
  match turn.build P keys with
  | .ok frame => frame
  | .error _ => []

def granted : Bool := (turn.rate.1.consumeFor ip turn.rate.2).1

/-- `rest` is what the client has sent after this frame. -/
def events (rest : Bytes) : List (RateLimiter × HandlerEvent) :=
  let stream :=
    { incoming := turn.frame P keys ++ rest, cuts := turn.cuts,
      ending := .timeout, outgoing := [] }
  [(turn.idle.1, .checkIdle turn.idle.2), (turn.idle.1, .received stream)] ++
    if turn.msgType ≠ .dataRequest then []
    else
      [(turn.idle.1, .touched turn.touched),
        (turn.rate.1, .foundBucket turn.found),
        (turn.rate.1, .consumed turn.rate.2)] ++
      if turn.granted ip then
        [(turn.rate.1, turn.outcome.event),
          (turn.rate.1, .sent turn.replyNonce none)]
      else [(turn.rate.1, .sent turn.replyNonce none)]

/-- The server's `send_frame`. -/
def buildReply (msgType : MessageType) (payload : Bytes) : Except PyError Bytes :=
  buildFrame P msgType keys.sessionId payload (some keys.encKey)
    (some keys.macKey) turn.replyNonce

/-- What the handler has to do in the turn. -/
def Answered (log : List HandlerAction) : Prop :=
  if turn.msgType ≠ .dataRequest then log = []
  else if turn.granted ip then
    ∃ response frame, turn.outcome.response = some response ∧
      turn.buildReply P keys .dataResponse response = .ok frame ∧
      log = [.accepted turn.payload, .granted, .forwarded turn.payload,
        .passed .dataResponse response, .framed frame]
  else
    ∃ frame, turn.buildReply P keys .error rateLimitMessage = .ok frame ∧
      log = [.accepted turn.payload, .passed .error rateLimitMessage,
        .framed frame]

/-- The response exists and fits into a frame. -/
def Sendable : Prop :=
  ∃ response, turn.outcome.response = some response ∧
    minBody + (response.length + gcmTagSize) ≤ maxFrameSize

end Turn

def clientBytes (turns : List Turn) : Bytes :=
  turns.flatMap fun turn => turn.frame P keys

/-- The loop from one frame to the next, the socket working and time passing. -/
def serveEvents : List Turn → List (RateLimiter × HandlerEvent)
  | [] => []
  | turn :: rest => turn.events P keys ip (clientBytes P keys rest) ++ serveEvents rest

/-- The handler at the head of the loop of an established session. -/
def loopStart (log : List HandlerAction) : Handler :=
  { ip, point := .serving keys .idleCheck, log }

/-- The requests that `forward_request` has had. -/
def forwardedRequests : List HandlerAction → List Bytes :=
  List.filterMap fun
    | .forwarded request => some request
    | _ => none

def grantedRequests (turns : List Turn) : List Bytes :=
  (turns.filter fun turn =>
    decide (turn.msgType = .dataRequest) && turn.granted ip).map Turn.payload

/-- One reply for each request and none for other frames, each before the next
frame is read; the loop is still running, and `forward_request` has had the
granted requests in their order. -/
def ServesAll (turns : List Turn) : Prop :=
  ∃ logs, run (threadStep P) (loopStart keys ip []) (serveEvents P keys ip turns) =
      some (loopStart keys ip logs.flatten) ∧
    List.Forall₂ (fun turn log => turn.Answered P keys ip log) turns logs ∧
    forwardedRequests logs.flatten = grantedRequests ip turns

end

/-- The keys that `server_handshake` returns have these sizes. -/
structure Established (keys : SessionKeys) : Prop where
  sessionId : keys.sessionId.length = sessionIdSize
  encKey : keys.encKey.length = aesKeySize

/-- The client's frame is a well-formed one of the session, and the session is
not idle when the loop gets to it. -/
structure Turn.Arrives (P : Primitives) (keys : SessionKeys) (ip : Ip)
    (turn : Turn) : Prop where
  built : ∃ frame, turn.build P keys = .ok frame
  lively : turn.idle.1.isIdle ip turn.idle.2 = false

section

variable {P : Primitives} {keys : SessionKeys} {ip : Ip} {turn : Turn}
  {log : List HandlerAction}

theorem Established.buildFrame_iff (established : Established keys)
    {msgType : MessageType} {payload : Bytes} {urandom : GcmNonce} :
    (∃ frame, buildFrame P msgType keys.sessionId payload (some keys.encKey)
      (some keys.macKey) urandom = .ok frame) ↔
      minBody + (payload.length + gcmTagSize) ≤ maxFrameSize := by
  apply exists_buildFrame_iff.trans
  have sizes : ∀ key ∈ some keys.encKey, key.length = aesKeySize :=
    fun key same => Option.mem_some_iff.mp same ▸ established.encKey
  exact ⟨fun built => built.2.2, fun fits => ⟨established.sessionId, sizes, fits⟩⟩

theorem buildReply_rateLimit (P : Primitives) (turn : Turn)
    (established : Established keys) :
    ∃ frame, turn.buildReply P keys .error rateLimitMessage = .ok frame := by
  apply established.buildFrame_iff.mpr
  decide +kernel

theorem recvFrame_turn (arrives : turn.Arrives P keys ip) (rest : Bytes) :
    ∃ after, recvFrame P (some keys.encKey) (some keys.macKey)
      { incoming := turn.frame P keys ++ rest, cuts := turn.cuts,
        ending := .timeout, outgoing := [] } =
      .ok (turn.msgType, turn.sessionId, turn.payload) after := by
  obtain ⟨frame, built⟩ := arrives.built
  have same : turn.frame P keys = frame := by
    rw [Turn.frame, built]
  obtain ⟨after, received, -⟩ := reads_recvFrame_of_buildFrame built
    { incoming := turn.frame P keys ++ rest, cuts := turn.cuts,
      ending := .timeout, outgoing := [] } rest (by rw [same])
  exact ⟨after, received⟩

theorem run_receive (arrives : turn.Arrives P keys ip) (rest : Bytes)
    (later : List (RateLimiter × HandlerEvent)) :
    run (threadStep P) (loopStart keys ip log)
      ([(turn.idle.1, .checkIdle turn.idle.2),
        (turn.idle.1, .received
          { incoming := turn.frame P keys ++ rest, cuts := turn.cuts,
            ending := .timeout, outgoing := [] })] ++ later) =
      run (threadStep P)
        (if turn.msgType ≠ .dataRequest then loopStart keys ip log
        else
          { ip, point := .serving keys (.touch turn.payload),
            log := log ++ [.accepted turn.payload] }) later := by
  obtain ⟨after, received⟩ := recvFrame_turn arrives rest
  have idle : threadStep P (loopStart keys ip log)
      (turn.idle.1, .checkIdle turn.idle.2) =
      some { ip, point := .serving keys .receive, log } := by
    simp [threadStep, handlerStep, serveStep, loopStart, arrives.lively,
      Handler.goto]
  rw [List.cons_append, run_cons, idle, Option.bind_some, List.cons_append,
    run_cons]
  by_cases other : turn.msgType ≠ .dataRequest
  · simp [threadStep, handlerStep, serveStep, received, other, loopStart,
      Handler.goto]
  · simp [threadStep, handlerStep, serveStep, received, other, Handler.goto,
      Handler.record]

theorem run_checkRate (later : List (RateLimiter × HandlerEvent)) :
    run (threadStep P)
      { ip, point := .serving keys (.touch turn.payload),
        log := log ++ [.accepted turn.payload] }
      ([(turn.idle.1, .touched turn.touched),
        (turn.rate.1, .foundBucket turn.found),
        (turn.rate.1, .consumed turn.rate.2)] ++ later) =
      run (threadStep P)
        (if turn.granted ip then
          { ip, point := .serving keys (.forward turn.payload),
            log := log ++ [.accepted turn.payload, .granted] }
        else
          { ip, point := .serving keys .rateError,
            log := log ++ [.accepted turn.payload] }) later := by
  by_cases granted : turn.granted ip = true
  · have allowed : (turn.rate.1.consumeFor ip turn.rate.2).1 = true := granted
    simp [threadStep, handlerStep, serveStep, allowed, granted, Handler.goto,
      Handler.record]
  · have refused : ¬ (turn.rate.1.consumeFor ip turn.rate.2).1 = true := granted
    simp [threadStep, handlerStep, serveStep, refused, granted, Handler.goto]

theorem run_reply {point : ServePoint} {msgType : MessageType}
    {payload frame : Bytes}
    (replies : point = .rateError ∧ msgType = .error ∧
        payload = rateLimitMessage ∨
      point = .respond payload ∧ msgType = .dataResponse)
    (built : turn.buildReply P keys msgType payload = .ok frame)
    (limiter : RateLimiter) (later : List (RateLimiter × HandlerEvent)) :
    run (threadStep P) { ip, point := .serving keys point, log }
      ((limiter, .sent turn.replyNonce none) :: later) =
      run (threadStep P)
        (loopStart keys ip (log ++ [.passed msgType payload, .framed frame]))
        later := by
  have sent : buildFrame P msgType keys.sessionId payload (some keys.encKey)
      (some keys.macKey) turn.replyNonce = .ok frame := built
  rcases replies with ⟨rfl, rfl, rfl⟩ | ⟨rfl, rfl⟩
  · simp [threadStep, handlerStep, serveStep, Handler.sendReply, sent, loopStart,
      Handler.goto, Handler.record]
  · simp [threadStep, handlerStep, serveStep, Handler.sendReply, sent, loopStart,
      Handler.goto, Handler.record]

/-- `forward_request` up to the response. -/
theorem threadStep_forward {response : Bytes}
    (responds : turn.outcome.response = some response) :
    threadStep P { ip, point := .serving keys (.forward turn.payload), log }
      (turn.rate.1, turn.outcome.event) =
      some { ip, point := .serving keys (.respond response),
             log := log ++ [.forwarded turn.payload] } := by
  cases outcome : turn.outcome with
  | returned responseData =>
      rw [outcome] at responds
      cases responds
      simp [threadStep, handlerStep, serveStep, ForwardOutcome.event, Handler.goto,
        Handler.record]
  | raised text =>
      rw [outcome] at responds
      obtain ⟨failure, encodes, rfl⟩ := Option.map_eq_some_iff.mp responds
      simp [threadStep, handlerStep, serveStep, ForwardOutcome.event, encodes,
        Handler.goto, Handler.record]

theorem run_turn (established : Established keys)
    (arrives : turn.Arrives P keys ip)
    (sendable : turn.msgType = .dataRequest → turn.granted ip = true →
      turn.Sendable) (rest : Bytes) :
    ∃ answer, turn.Answered P keys ip answer ∧
      ∀ log later, run (threadStep P) (loopStart keys ip log)
        (turn.events P keys ip rest ++ later) =
        run (threadStep P) (loopStart keys ip (log ++ answer)) later := by
  by_cases request : turn.msgType = .dataRequest
  · by_cases granted : turn.granted ip = true
    · obtain ⟨response, responds, fits⟩ := sendable request granted
      have reply : ∃ frame,
          turn.buildReply P keys .dataResponse response = .ok frame :=
        established.buildFrame_iff.mpr fits
      obtain ⟨frame, built⟩ := reply
      refine ⟨[.accepted turn.payload, .granted, .forwarded turn.payload,
        .passed .dataResponse response, .framed frame], ?_, ?_⟩
      · rw [Turn.Answered, if_neg (not_not.mpr request), if_pos granted]
        exact ⟨response, frame, responds, built, rfl⟩
      · intro log later
        rw [Turn.events, List.append_assoc, run_receive arrives,
          if_neg (not_not.mpr request), if_neg (not_not.mpr request),
          List.append_assoc, run_checkRate, if_pos granted, if_pos granted,
          List.cons_append, run_cons, threadStep_forward responds,
          Option.bind_some, List.cons_append, run_reply (.inr ⟨rfl, rfl⟩) built,
          List.nil_append]
        simp
    · obtain ⟨frame, built⟩ := buildReply_rateLimit P turn established
      refine ⟨[.accepted turn.payload, .passed .error rateLimitMessage,
        .framed frame], ?_, ?_⟩
      · rw [Turn.Answered, if_neg (not_not.mpr request), if_neg granted]
        exact ⟨frame, built, rfl⟩
      · intro log later
        rw [Turn.events, List.append_assoc, run_receive arrives,
          if_neg (not_not.mpr request), if_neg (not_not.mpr request),
          List.append_assoc, run_checkRate, if_neg granted, if_neg granted,
          List.cons_append, run_reply (.inl ⟨rfl, rfl, rfl⟩) built,
          List.nil_append]
        simp
  · refine ⟨[], ?_, ?_⟩
    · rw [Turn.Answered, if_pos request]
    · intro log later
      rw [Turn.events, List.append_assoc, run_receive arrives, if_pos request,
        if_pos request, List.nil_append, List.append_nil]

theorem run_unsendable (established : Established keys)
    (arrives : turn.Arrives P keys ip)
    (request : turn.msgType = .dataRequest) (granted : turn.granted ip = true)
    (unsendable : ¬ turn.Sendable) (log : List HandlerAction) (rest : Bytes)
    (later : List (RateLimiter × HandlerEvent)) :
    run (threadStep P) (loopStart keys ip log)
        (turn.events P keys ip rest ++ later) = none ∨
      ∃ h, h.point = .release ∧ run (threadStep P) (loopStart keys ip log)
        (turn.events P keys ip rest ++ later) = run (threadStep P) h later := by
  unfold Turn.events
  rw [List.append_assoc, run_receive arrives, if_neg (not_not.mpr request),
    if_neg (not_not.mpr request), List.append_assoc, run_checkRate,
    if_pos granted, if_pos granted, List.cons_append, run_cons]
  cases responds : turn.outcome.response with
  | some response =>
      right
      rw [threadStep_forward responds, Option.bind_some, List.cons_append,
        run_cons]
      cases built : turn.buildReply P keys .dataResponse response with
      | ok frame =>
          exact absurd ⟨response, responds, established.buildFrame_iff.mp ⟨frame, built⟩⟩
            unsendable
      | error error =>
          have failed : buildFrame P .dataResponse keys.sessionId response
              (some keys.encKey) (some keys.macKey) turn.replyNonce =
              .error error := built
          refine ⟨{ ip, point := .release,
                    log := log ++ [.accepted turn.payload, .granted] ++
                      [.forwarded turn.payload] ++
                      [.passed .dataResponse response] }, rfl, ?_⟩
          simp [threadStep, handlerStep, serveStep, Handler.sendReply, failed,
            Handler.goto, Handler.record]
  | none =>
      left
      cases outcome : turn.outcome with
      | returned responseData =>
          rw [outcome] at responds
          cases responds
      | raised text =>
          rw [outcome] at responds
          have unencodable := Option.map_eq_none_iff.mp responds
          simp [threadStep, handlerStep, ForwardOutcome.event, unencodable,
            Handler.afterException, Handler.goto]

theorem run_released {h : Handler} (released : h.point = .release)
    (turns : List Turn) (answers : List HandlerAction) :
    run (threadStep P) h (serveEvents P keys ip turns) ≠
      some (loopStart keys ip answers) := by
  cases turns with
  | nil =>
      intro same
      cases same
      cases released
  | cons turn rest =>
      have refused : threadStep P h (turn.idle.1, .checkIdle turn.idle.2) =
          none := by
        simp [threadStep, handlerStep, released]
      simp [serveEvents, Turn.events, refused]

theorem forwardedRequests_append (first second : List HandlerAction) :
    forwardedRequests (first ++ second) =
      forwardedRequests first ++ forwardedRequests second :=
  List.filterMap_append

/-- An answered turn has forwarded its request exactly if it was granted. -/
theorem forwardedRequests_answered (answered : turn.Answered P keys ip log) :
    forwardedRequests log = grantedRequests ip [turn] := by
  unfold Turn.Answered at answered
  by_cases request : turn.msgType = .dataRequest
  · rw [if_neg (not_not.mpr request)] at answered
    by_cases granted : turn.granted ip = true
    · rw [if_pos granted] at answered
      obtain ⟨response, frame, -, -, rfl⟩ := answered
      simp [forwardedRequests, grantedRequests, request, granted]
    · rw [if_neg granted] at answered
      obtain ⟨frame, -, rfl⟩ := answered
      simp [forwardedRequests, grantedRequests, granted]
  · rw [if_pos request] at answered
    subst answered
    simp [forwardedRequests, grantedRequests, request]

theorem forwardedRequests_flatten {turns : List Turn}
    {logs : List (List HandlerAction)}
    (answered : List.Forall₂ (fun turn log => turn.Answered P keys ip log) turns
      logs) :
    forwardedRequests logs.flatten = grantedRequests ip turns := by
  induction answered with
  | nil => rfl
  | @cons turn log turns logs first _ ih =>
      rw [List.flatten_cons, forwardedRequests_append, ih,
        forwardedRequests_answered first, grantedRequests, grantedRequests,
        grantedRequests, ← List.map_append, ← List.filter_append]
      rfl

theorem run_serveEvents (established : Established keys) {turns : List Turn}
    (arrive : ∀ turn ∈ turns, turn.Arrives P keys ip)
    (sendable : ∀ turn ∈ turns, turn.msgType = .dataRequest →
      turn.granted ip = true → turn.Sendable) (log : List HandlerAction) :
    ∃ logs, run (threadStep P) (loopStart keys ip log)
        (serveEvents P keys ip turns) =
        some (loopStart keys ip (log ++ logs.flatten)) ∧
      List.Forall₂ (fun turn log => turn.Answered P keys ip log) turns logs := by
  induction turns generalizing log with
  | nil => exact ⟨[], by simp [serveEvents], .nil⟩
  | cons turn turns ih =>
      obtain ⟨answer, answered, ran⟩ := run_turn established
        (arrive turn List.mem_cons_self) (sendable turn List.mem_cons_self)
        (clientBytes P keys turns)
      obtain ⟨logs, rest, all⟩ := ih
        (fun other member => arrive other (List.mem_cons_of_mem _ member))
        (fun other member => sendable other (List.mem_cons_of_mem _ member))
        (log ++ answer)
      refine ⟨answer :: logs, ?_, .cons answered all⟩
      rw [serveEvents, ran, rest, List.flatten_cons, List.append_assoc]

/-- The first unsendable response is the end of the loop. -/
theorem run_serveEvents_unsendable (established : Established keys)
    {turns : List Turn} (arrive : ∀ turn ∈ turns, turn.Arrives P keys ip)
    (member : turn ∈ turns) (request : turn.msgType = .dataRequest)
    (granted : turn.granted ip = true) (unsendable : ¬ turn.Sendable)
    (log answers : List HandlerAction) :
    run (threadStep P) (loopStart keys ip log) (serveEvents P keys ip turns) ≠
      some (loopStart keys ip answers) := by
  induction turns generalizing log with
  | nil => cases member
  | cons first turns ih =>
      have here := arrive first List.mem_cons_self
      rw [serveEvents]
      by_cases ends : first.msgType = .dataRequest ∧ first.granted ip = true ∧
          ¬ first.Sendable
      · obtain ⟨request, granted, unsendable⟩ := ends
        rcases run_unsendable established here request granted unsendable log
            (clientBytes P keys turns) (serveEvents P keys ip turns) with
          stuck | ⟨h, released, same⟩
        · rw [stuck]
          nofun
        · rw [same]
          exact run_released released turns answers
      · have passes : first.msgType = .dataRequest → first.granted ip = true →
            first.Sendable := by
          intro request granted
          by_contra unsendable
          exact ends ⟨request, granted, unsendable⟩
        obtain ⟨answer, -, ran⟩ := run_turn established here passes
          (clientBytes P keys turns)
        rw [ran]
        rcases List.mem_cons.mp member with rfl | later
        · exact absurd (passes request granted) unsendable
        · exact ih
            (fun other inside => arrive other (List.mem_cons_of_mem _ inside))
            later (log ++ answer)

end

/-- One reply for each request, as long as there is one that can be sent. -/
theorem one_reply_per_request (P : Primitives) (keys : SessionKeys)
    (established : Established keys) (ip : Ip) (turns : List Turn)
    (arrive : ∀ turn ∈ turns, turn.Arrives P keys ip) :
    ServesAll P keys ip turns ↔
      ∀ turn ∈ turns, turn.msgType = .dataRequest → turn.granted ip = true →
        turn.Sendable := by
  constructor
  · rintro ⟨logs, ran, -, -⟩ turn member request granted
    by_contra unsendable
    exact run_serveEvents_unsendable established arrive member request granted
      unsendable [] logs.flatten ran
  · intro sendable
    obtain ⟨logs, ran, answered⟩ := run_serveEvents established arrive sendable []
    exact ⟨logs, ran, answered, forwardedRequests_flatten answered⟩

/-! A session with a request that is answered, one that is refused and a frame that
is no request; and a request whose response is too long. -/

def sampleLoopKeys : SessionKeys where
  sessionId := List.replicate sessionIdSize 1
  encKey := List.replicate aesKeySize 2
  macKey := List.replicate hmacDigestSize 3

/-- With one token for the address. -/
def freshLimiter : RateLimiter :=
  (RateLimiter.create 1 1 1 50 300).findBucket "10.0.0.1" 0

def spentLimiter : RateLimiter := (freshLimiter.consumeFor "10.0.0.1" 0).2

def sampleTurn (msgType : MessageType) (limiter : RateLimiter) (outcome : ForwardOutcome) :
    Turn where
  msgType
  sessionId := sampleLoopKeys.sessionId
  payload := [7]
  urandom := zeroNonce
  cuts := []
  idle := (((RateLimiter.create 1 1 1 50 300).tryAddConnection "10.0.0.1" 0).2, 0)
  touched := 0
  found := 0
  rate := (limiter, 0)
  outcome
  replyNonce := zeroNonce

theorem established_sampleLoopKeys : Established sampleLoopKeys where
  sessionId := by decide
  encKey := by decide

theorem sampleTurn_arrives (msgType : MessageType) (limiter : RateLimiter)
    (outcome : ForwardOutcome) :
    (sampleTurn msgType limiter outcome).Arrives .transparent sampleLoopKeys
      "10.0.0.1" where
  built := by
    have fits : minBody + (([7] : Bytes).length + gcmTagSize) ≤ maxFrameSize := by
      decide
    exact established_sampleLoopKeys.buildFrame_iff.mpr fits
  lively := by
    change ((RateLimiter.create 1 1 1 50 300).tryAddConnection "10.0.0.1"
      0).2.isIdle "10.0.0.1" 0 = false
    decide +kernel

def mixedTurns : List Turn :=
  [sampleTurn .dataRequest freshLimiter (.returned [9]),
    sampleTurn .dataRequest spentLimiter (.returned []),
    sampleTurn .dataResponse spentLimiter (.returned [])]

theorem one_reply_per_request_short :
    ServesAll .transparent sampleLoopKeys "10.0.0.1" mixedTurns ∧
      mixedTurns.map (Turn.granted "10.0.0.1") = [true, false, false] := by
  refine ⟨(one_reply_per_request .transparent sampleLoopKeys
    established_sampleLoopKeys "10.0.0.1" _ ?_).mpr ?_, by decide +kernel⟩
  · intro turn member
    simp only [mixedTurns, List.mem_cons, List.not_mem_nil, or_false] at member
    rcases member with rfl | rfl | rfl
    all_goals exact sampleTurn_arrives _ _ _
  · intro turn member _ _
    simp only [mixedTurns, List.mem_cons, List.not_mem_nil, or_false] at member
    rcases member with rfl | rfl | rfl
    · exact ⟨[9], rfl, by decide⟩
    · exact ⟨[], rfl, by decide⟩
    · exact ⟨[], rfl, by decide⟩

/-- A response of 16 MiB, such as the hexadecimal text of a page of 8 MiB. -/
theorem reply_too_long_unanswered :
    ¬ ServesAll .transparent sampleLoopKeys "10.0.0.1"
      [sampleTurn .dataRequest freshLimiter (.returned (List.replicate maxFrameSize 0))] := by
  rintro ⟨logs, ran, -, -⟩
  refine run_serveEvents_unsendable established_sampleLoopKeys ?_
    List.mem_cons_self rfl ?_ ?_ [] logs.flatten ran
  · intro turn member
    obtain rfl := List.mem_singleton.mp member
    exact sampleTurn_arrives _ _ _
  · change (freshLimiter.consumeFor "10.0.0.1" 0).1 = true
    decide +kernel
  · rintro ⟨response, same, fits⟩
    cases same
    rw [List.length_replicate] at fits
    exact absurd fits (by decide)

end VpnTunnel.Server
