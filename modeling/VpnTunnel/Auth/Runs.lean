import VpnTunnel.Auth.Handshake

namespace VpnTunnel.Auth

open VpnTunnel.Crypto
open VpnTunnel.Foundation

/-! One call of either function: where it waits, with the nonces it has by then,
and what it has done. -/

inductive ClientPoint (β : Type)
  | clientHello
  | serverHello (nonceC : List β)
  | serverDone (nonceC nonceS : List β)
  | returned (nonceC nonceS : List β) (keys : HandshakeKeys β)
  | raised (error : HandshakeError β)
  deriving DecidableEq, Repr

inductive ServerPoint (β : Type)
  | clientHello
  | clientResponse (nonceC nonceS : List β)
  | returned (nonceC nonceS : List β) (keys : HandshakeKeys β)
  | raised (error : HandshakeError β)
  deriving DecidableEq, Repr

structure Run (π β κ : Type) where
  point : π
  log : List (Action β κ)
  deriving DecidableEq, Repr

abbrev ClientRun (β κ : Type) := Run (ClientPoint β) β κ
abbrev ServerRun (β κ : Type) := Run (ServerPoint β) β κ

inductive ClientEvent (β : Type)
  | start (clock : ℚ) (fault : Option PyError)
  | serverHello (received : Except PyError (Frame β)) (clock : ℚ)
      (fault : Option PyError)
  | serverDone (received : Except PyError (Frame β))

inductive ServerEvent (β : Type)
  | clientHello (received : Except PyError (Frame β)) (clock tsS : ℚ)
      (fault : Option PyError)
  | clientResponse (received : Except PyError (Frame β))
      (fault : Option PyError)

def ClientEvent.frame {β : Type} : ClientEvent β → Option (Frame β)
  | .start _ _ => none
  | .serverHello received _ _ | .serverDone received => received.toOption

def ServerEvent.frame {β : Type} : ServerEvent β → Option (Frame β)
  | .clientHello received _ _ _ | .clientResponse received _ =>
      received.toOption

section

variable {π β κ α : Type}

def Run.start (point : π) : Run π β κ := { point, log := [] }

/-- The run after a block of its function, and how many draws there are then. -/
def Run.advance (run : Run π β κ) (draws : ℕ) (block : HandshakeM β κ α)
    (raised : HandshakeError β → π) (next : α → π) : ℕ × Run π β κ :=
  match block { draws, log := run.log } with
  | .ok result io => (io.draws, { point := next result, log := io.log })
  | .error error io => (io.draws, { point := raised error, log := io.log })

variable [DecidableEq β]

def clientStep (suite : Suite β κ) (clientKey serverKey : κ) (draws : ℕ)
    (run : ClientRun β κ) (event : ClientEvent β) :
    Option (ℕ × ClientRun β κ) :=
  match run.point, event with
  | .clientHello, .start clock fault =>
      some (run.advance draws (clientHello suite clock fault) .raised
        .serverHello)
  | .serverHello nonceC, .serverHello received clock fault =>
      some (run.advance draws
        (clientResponse suite clientKey serverKey nonceC received clock fault)
        .raised (.serverDone nonceC))
  | .serverDone nonceC nonceS, .serverDone received =>
      some (run.advance draws (clientFinish suite clientKey received) .raised
        (.returned nonceC nonceS))
  | _, _ => none

def serverStep (suite : Suite β κ) (clientKey serverKey : κ) (draws : ℕ)
    (run : ServerRun β κ) (event : ServerEvent β) :
    Option (ℕ × ServerRun β κ) :=
  match run.point, event with
  | .clientHello, .clientHello received clock tsS fault =>
      some (run.advance draws
        (serverHello suite serverKey received clock tsS fault) .raised
        fun nonces => .clientResponse nonces.1 nonces.2)
  | .clientResponse nonceC nonceS, .clientResponse received fault =>
      some (run.advance draws
        (serverDone suite clientKey nonceC nonceS received fault) .raised
        (.returned nonceC nonceS))
  | _, _ => none

/-! All that a step can do: the point it reaches, the actions it adds to the log
and how many draws it makes. -/

inductive ClientMove (suite : Suite β κ) (clientKey serverKey : κ) (draws : ℕ) :
    ClientPoint β → ClientPoint β → List (Action β κ) → ℕ → Prop
  | hello (clock : ℚ) :
      ClientMove suite clientKey serverKey draws .clientHello
        (.serverHello (suite.urandom draws nonceSize))
        [.drew draws,
          .sent { msgType := .handshakeClientHello
                  payload := clientHelloPayload
                    (suite.urandom draws nonceSize) clock }] 1
  | response (nonceC nonceS : List β) (clock : ℚ) (frame : Frame β)
      (accepted :
        readServerHello suite serverKey nonceC clock frame = .ok nonceS) :
      ClientMove suite clientKey serverKey draws (.serverHello nonceC)
        (.serverDone nonceC nonceS)
        [.received frame, .drew draws, .signed clientKey (nonceS ++ nonceC),
          .sent { msgType := .handshakeClientResponse
                  payload := clientResponsePayload
                    (suite.computeHmac (nonceS ++ nonceC) suite.challengeKey)
                    (suite.sign clientKey (nonceS ++ nonceC)
                      (suite.urandom draws pssSaltSize)) }] 1
  | finish (nonceC nonceS : List β) (frame : Frame β)
      (sessionId sessionKey : List β)
      (accepted :
        readServerDone suite clientKey frame = .ok (sessionId, sessionKey)) :
      ClientMove suite clientKey serverKey draws (.serverDone nonceC nonceS)
        (.returned nonceC nonceS (handshakeKeys suite sessionId sessionKey))
        [.received frame] 0
  /-- The frame went out, in whole or in part, before `sendall` raised. -/
  | fault {before after : ClientPoint β} {log : List (Action β κ)} {drawn : ℕ}
      (error : HandshakeError β)
      (move : ClientMove suite clientKey serverKey draws before after log drawn) :
      ClientMove suite clientKey serverKey draws before (.raised error) log
        drawn
  | rejected (before : ClientPoint β) (error : HandshakeError β)
      (frame : Option (Frame β)) :
      ClientMove suite clientKey serverKey draws before (.raised error)
        (frame.map .received).toList 0

inductive ServerMove (suite : Suite β κ) (clientKey serverKey : κ) (draws : ℕ) :
    ServerPoint β → ServerPoint β → List (Action β κ) → ℕ → Prop
  | hello (frame : Frame β) (nonceC : List β) (tsC : JsonValue β)
      (clock tsS : ℚ)
      (accepted : readClientHello suite frame = .ok (nonceC, tsC))
      (inside : outsideWindow clock tsC = .ok false) :
      ServerMove suite clientKey serverKey draws .clientHello
        (.clientResponse nonceC (suite.urandom draws nonceSize))
        [.received frame, .drew draws, .drew (draws + 1),
          .signed serverKey (nonceC ++ suite.urandom draws nonceSize),
          .sent { msgType := .handshakeServerHello
                  payload := serverHelloPayload (suite.urandom draws nonceSize)
                    tsS
                    (suite.computeHmac
                      (nonceC ++ suite.urandom draws nonceSize)
                      suite.challengeKey)
                    (suite.sign serverKey
                      (nonceC ++ suite.urandom draws nonceSize)
                      (suite.urandom (draws + 1) pssSaltSize)) }] 2
  | done (nonceC nonceS : List β) (frame : Frame β)
      (challengeResponse sigC : List β)
      (accepted :
        readClientResponse suite frame = .ok (challengeResponse, sigC))
      (challenge : suite.verifyHmac (nonceS ++ nonceC) challengeResponse
        suite.challengeKey = true)
      (verified : suite.verify clientKey (nonceS ++ nonceC) sigC = true) :
      ServerMove suite clientKey serverKey draws (.clientResponse nonceC nonceS)
        (.returned nonceC nonceS
          (handshakeKeys suite (suite.urandom draws sessionIdSize)
            (suite.urandom (draws + 1) aesKeySize)))
        [.received frame, .drew draws, .drew (draws + 1), .drew (draws + 2),
          .sent { msgType := .handshakeServerDone
                  payload := serverDonePayload
                    (suite.urandom draws sessionIdSize)
                    (suite.encrypt clientKey
                      (suite.urandom (draws + 1) aesKeySize)
                      (suite.urandom (draws + 2) oaepSeedSize)) }] 3
  | fault {before after : ServerPoint β} {log : List (Action β κ)} {drawn : ℕ}
      (error : HandshakeError β)
      (move : ServerMove suite clientKey serverKey draws before after log drawn) :
      ServerMove suite clientKey serverKey draws before (.raised error) log
        drawn
  | rejected (before : ServerPoint β) (error : HandshakeError β)
      (frame : Option (Frame β)) :
      ServerMove suite clientKey serverKey draws before (.raised error)
        (frame.map .received).toList 0
  | refused (before : ServerPoint β) (error : HandshakeError β)
      (frame : Frame β) (message : String) :
      ServerMove suite clientKey serverKey draws before (.raised error)
        [.received frame,
          .sent { msgType := .error, payload := .text message }] 0

/-- A block of a run that moves it on by this log and these draws. -/
def Run.Advances (run : Run π β κ) (draws : ℕ) (advanced : ℕ × Run π β κ)
    (received : Option (Frame β))
    (move : π → List (Action β κ) → ℕ → Prop) : Prop :=
  ∃ after log drawn,
    advanced = (draws + drawn, { point := after, log := run.log ++ log }) ∧
    move after log drawn ∧
    ∀ frame, .received frame ∈ log → received = some frame

section

variable (suite : Suite β κ) (clientKey serverKey : κ) (draws : ℕ)

theorem clientHello_advances (run : ClientRun β κ) (clock : ℚ)
    (fault : Option PyError) :
    run.Advances draws
      (run.advance draws (clientHello suite clock fault) .raised .serverHello)
      none (ClientMove suite clientKey serverKey draws .clientHello) := by
  cases fault with
  | none =>
      refine ⟨_, _, _, ?_, .hello clock, by simp⟩
      simp [Run.advance, clientHello]
  | some error =>
      refine ⟨_, _, _, ?_, .fault (.py error) (.hello clock), by simp⟩
      simp [Run.advance, clientHello]

theorem clientResponse_advances (run : ClientRun β κ) (nonceC : List β)
    (received : Except PyError (Frame β)) (clock : ℚ)
    (fault : Option PyError) :
    run.Advances draws
      (run.advance draws
        (clientResponse suite clientKey serverKey nonceC received clock fault)
        .raised (.serverDone nonceC))
      received.toOption
      (ClientMove suite clientKey serverKey draws (.serverHello nonceC)) := by
  cases received with
  | error error =>
      refine ⟨_, _, _, ?_, .rejected _ (.py error) none, by simp⟩
      simp [Run.advance, clientResponse]
  | ok frame =>
      cases accepted : readServerHello suite serverKey nonceC clock frame with
      | error error =>
          refine ⟨_, _, _, ?_, .rejected _ error (some frame), by
            simp [Except.toOption]⟩
          simp [Run.advance, clientResponse, accepted]
      | ok nonceS =>
          have move : ClientMove suite clientKey serverKey draws _ _ _ _ :=
            .response nonceC nonceS clock frame accepted
          cases fault with
          | none =>
              refine ⟨_, _, _, ?_, move, by simp [Except.toOption]⟩
              simp [Run.advance, clientResponse, accepted]
          | some error =>
              refine ⟨_, _, _, ?_, .fault (.py error) move, by
                simp [Except.toOption]⟩
              simp [Run.advance, clientResponse, accepted]

theorem clientFinish_advances (run : ClientRun β κ) (nonceC nonceS : List β)
    (received : Except PyError (Frame β)) :
    run.Advances draws
      (run.advance draws (clientFinish suite clientKey received) .raised
        (.returned nonceC nonceS))
      received.toOption
      (ClientMove suite clientKey serverKey draws
        (.serverDone nonceC nonceS)) := by
  cases received with
  | error error =>
      refine ⟨_, _, _, ?_, .rejected _ (.py error) none, by simp⟩
      simp [Run.advance, clientFinish]
  | ok frame =>
      cases accepted : readServerDone suite clientKey frame with
      | error error =>
          refine ⟨_, _, _, ?_, .rejected _ error (some frame), by
            simp [Except.toOption]⟩
          simp [Run.advance, clientFinish, accepted]
      | ok pair =>
          obtain ⟨sessionId, sessionKey⟩ := pair
          refine ⟨_, _, _, ?_,
            .finish nonceC nonceS frame sessionId sessionKey accepted, by
            simp [Except.toOption]⟩
          simp [Run.advance, clientFinish, accepted]

theorem serverHello_advances (run : ServerRun β κ)
    (received : Except PyError (Frame β)) (clock tsS : ℚ)
    (fault : Option PyError) :
    run.Advances draws
      (run.advance draws
        (serverHello suite serverKey received clock tsS fault) .raised
        fun nonces => .clientResponse nonces.1 nonces.2)
      received.toOption
      (ServerMove suite clientKey serverKey draws .clientHello) := by
  cases received with
  | error error =>
      refine ⟨_, _, _, ?_, .rejected _ (.py error) none, by simp⟩
      simp [Run.advance, serverHello]
  | ok frame =>
      cases accepted : readClientHello suite frame with
      | error error =>
          refine ⟨_, _, _, ?_, .rejected _ error (some frame), by
            simp [Except.toOption]⟩
          simp [Run.advance, serverHello, accepted]
      | ok pair =>
          obtain ⟨nonceC, tsC⟩ := pair
          cases window : outsideWindow clock tsC with
          | error error =>
              refine ⟨_, _, _, ?_, .rejected _ error (some frame), by
                simp [Except.toOption]⟩
              simp [Run.advance, serverHello, accepted, window]
          | ok outside =>
              cases outside with
              | true =>
                  refine ⟨_, _, _, ?_, .refused _
                    (.py (.valueError "ClientHello timestamp rejected")) frame
                    "ClientHello timestamp outside acceptable window", by
                    simp [Except.toOption]⟩
                  simp [Run.advance, serverHello, accepted, window]
              | false =>
                  have move :
                      ServerMove suite clientKey serverKey draws _ _ _ _ :=
                    .hello frame nonceC tsC clock tsS accepted window
                  cases fault with
                  | none =>
                      refine ⟨_, _, _, ?_, move, by simp [Except.toOption]⟩
                      simp [Run.advance, serverHello, accepted, window]
                  | some error =>
                      refine ⟨_, _, _, ?_, .fault (.py error) move, by
                        simp [Except.toOption]⟩
                      simp [Run.advance, serverHello, accepted, window]

theorem serverDone_advances (run : ServerRun β κ) (nonceC nonceS : List β)
    (received : Except PyError (Frame β)) (fault : Option PyError) :
    run.Advances draws
      (run.advance draws
        (serverDone suite clientKey nonceC nonceS received fault) .raised
        (.returned nonceC nonceS))
      received.toOption
      (ServerMove suite clientKey serverKey draws
        (.clientResponse nonceC nonceS)) := by
  cases received with
  | error error =>
      refine ⟨_, _, _, ?_, .rejected _ (.py error) none, by simp⟩
      simp [Run.advance, serverDone]
  | ok frame =>
      cases accepted : readClientResponse suite frame with
      | error error =>
          refine ⟨_, _, _, ?_, .rejected _ error (some frame), by
            simp [Except.toOption]⟩
          simp [Run.advance, serverDone, accepted]
      | ok pair =>
          obtain ⟨challengeResponse, sigC⟩ := pair
          cases challenge : suite.verifyHmac (nonceS ++ nonceC)
              challengeResponse suite.challengeKey with
          | false =>
              refine ⟨_, _, _, ?_, .refused _
                (.py (.valueError "Client challenge response mismatch")) frame
                "Challenge response HMAC mismatch", by
                simp [Except.toOption]⟩
              simp [Run.advance, serverDone, accepted, challenge]
          | true =>
              cases verified : suite.verify clientKey (nonceS ++ nonceC)
                  sigC with
              | false =>
                  refine ⟨_, _, _, ?_, .refused _
                    (.py (.valueError "Client signature verification FAILED")) frame
                    "Client signature verification failed", by
                    simp [Except.toOption]⟩
                  simp [Run.advance, serverDone, accepted, challenge, verified]
              | true =>
                  have move :
                      ServerMove suite clientKey serverKey draws _ _ _ _ :=
                    .done nonceC nonceS frame challengeResponse sigC accepted
                      challenge verified
                  cases fault with
                  | none =>
                      refine ⟨_, _, _, ?_, move, by simp [Except.toOption]⟩
                      simp [Run.advance, serverDone, accepted, challenge,
                        verified]
                  | some error =>
                      refine ⟨_, _, _, ?_, .fault (.py error) move, by
                        simp [Except.toOption]⟩
                      simp [Run.advance, serverDone, accepted, challenge,
                        verified]

variable {suite clientKey serverKey draws}

theorem clientStep_advances {run : ClientRun β κ} {event : ClientEvent β}
    {advanced : ℕ × ClientRun β κ}
    (stepped : clientStep suite clientKey serverKey draws run event =
      some advanced) :
    run.Advances draws advanced event.frame
      (ClientMove suite clientKey serverKey draws run.point) := by
  obtain ⟨point, log⟩ := run
  unfold clientStep at stepped
  split at stepped
  · rename_i clock fault here
    cases here
    cases stepped
    exact clientHello_advances suite clientKey serverKey draws _ clock fault
  · rename_i nonceC received clock fault here
    cases here
    cases stepped
    exact clientResponse_advances suite clientKey serverKey draws _ nonceC
      received clock fault
  · rename_i nonceC nonceS received here
    cases here
    cases stepped
    exact clientFinish_advances suite clientKey serverKey draws _ nonceC nonceS
      received
  · cases stepped

theorem serverStep_advances {run : ServerRun β κ} {event : ServerEvent β}
    {advanced : ℕ × ServerRun β κ}
    (stepped : serverStep suite clientKey serverKey draws run event =
      some advanced) :
    run.Advances draws advanced event.frame
      (ServerMove suite clientKey serverKey draws run.point) := by
  obtain ⟨point, log⟩ := run
  unfold serverStep at stepped
  split at stepped
  · rename_i received clock tsS fault here
    cases here
    cases stepped
    exact serverHello_advances suite clientKey serverKey draws _ received clock
      tsS fault
  · rename_i nonceC nonceS received fault here
    cases here
    cases stepped
    exact serverDone_advances suite clientKey serverKey draws _ nonceC nonceS
      received fault
  · cases stepped

end

end

end VpnTunnel.Auth
