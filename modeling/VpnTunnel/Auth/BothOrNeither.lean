import VpnTunnel.Auth.HonestNetwork

namespace VpnTunnel.Auth

open VpnTunnel.Crypto
open VpnTunnel.Foundation

/-! What a block of either function comes to when nothing fails below it. -/

section

variable {β κ : Type} [DecidableEq β] (suite : Suite β κ)
  {clientKey serverKey : κ} {draws : ℕ} {error : HandshakeError β}
  {frame : Frame β}

section

variable {run : ClientRun β κ} {nonceC nonceS : List β} {clock : ℚ}

theorem clientStep_hello (there : run.point = .clientHello) :
    clientStep suite clientKey serverKey draws run (.start clock none) =
      some (draws + 1,
        { point := .serverHello (suite.urandom draws nonceSize)
          log := run.log ++ [.drew draws,
            .sent { msgType := .handshakeClientHello
                    payload := clientHelloPayload
                      (suite.urandom draws nonceSize) clock }] }) := by
  simp [clientStep, there, Run.advance, clientHello]

theorem clientStep_response (there : run.point = .serverHello nonceC)
    (accepted : readServerHello suite serverKey nonceC clock frame = .ok nonceS) :
    clientStep suite clientKey serverKey draws run
        (.serverHello (.ok frame) clock none) =
      some (draws + 1,
        { point := .serverDone nonceC nonceS
          log := run.log ++ [.received frame, .drew draws,
            .signed clientKey (nonceS ++ nonceC),
            .sent { msgType := .handshakeClientResponse
                    payload := clientResponsePayload
                      (suite.computeHmac (nonceS ++ nonceC) suite.challengeKey)
                      (suite.sign clientKey (nonceS ++ nonceC)
                        (suite.urandom draws pssSaltSize)) }] }) := by
  simp [clientStep, there, Run.advance, clientResponse, accepted]

theorem clientStep_rejects (there : run.point = .serverHello nonceC)
    (rejected : readServerHello suite serverKey nonceC clock frame = .error error)
    (fault : Option PyError) :
    clientStep suite clientKey serverKey draws run
        (.serverHello (.ok frame) clock fault) =
      some (draws, { point := .raised error, log := run.log ++ [.received frame] }) := by
  simp [clientStep, there, Run.advance, clientResponse, rejected]

theorem clientStep_finish {sessionId sessionKey : List β}
    (there : run.point = .serverDone nonceC nonceS)
    (accepted : readServerDone suite clientKey frame = .ok (sessionId, sessionKey)) :
    clientStep suite clientKey serverKey draws run (.serverDone (.ok frame)) =
      some (draws,
        { point := .returned nonceC nonceS (handshakeKeys suite sessionId sessionKey)
          log := run.log ++ [.received frame] }) := by
  simp [clientStep, there, Run.advance, clientFinish, accepted]

theorem clientStep_refused (there : run.point = .serverDone nonceC nonceS)
    (rejected : readServerDone suite clientKey frame = .error error) :
    clientStep suite clientKey serverKey draws run (.serverDone (.ok frame)) =
      some (draws, { point := .raised error, log := run.log ++ [.received frame] }) := by
  simp [clientStep, there, Run.advance, clientFinish, rejected]

end

section

variable {run : ServerRun β κ} {nonceC nonceS : List β} {clock tsS : ℚ}
  {tsC : JsonValue β}

theorem serverStep_hello (there : run.point = .clientHello)
    (accepted : readClientHello suite frame = .ok (nonceC, tsC))
    (inside : outsideWindow clock tsC = .ok false) :
    serverStep suite clientKey serverKey draws run
        (.clientHello (.ok frame) clock tsS none) =
      some (draws + 1 + 1,
        { point := .clientResponse nonceC (suite.urandom draws nonceSize)
          log := run.log ++ [.received frame, .drew draws, .drew (draws + 1),
            .signed serverKey (nonceC ++ suite.urandom draws nonceSize),
            .sent { msgType := .handshakeServerHello
                    payload := serverHelloPayload (suite.urandom draws nonceSize) tsS
                      (suite.computeHmac (nonceC ++ suite.urandom draws nonceSize)
                        suite.challengeKey)
                      (suite.sign serverKey
                        (nonceC ++ suite.urandom draws nonceSize)
                        (suite.urandom (draws + 1) pssSaltSize)) }] }) := by
  simp [serverStep, there, Run.advance, serverHello, accepted, inside]

theorem serverStep_late (there : run.point = .clientHello)
    (accepted : readClientHello suite frame = .ok (nonceC, tsC))
    (outside : outsideWindow clock tsC = .ok true) (fault : Option PyError) :
    serverStep suite clientKey serverKey draws run
        (.clientHello (.ok frame) clock tsS fault) =
      some (draws,
        { point := .raised (.py (.valueError "ClientHello timestamp rejected"))
          log := run.log ++ [.received frame,
            .sent { msgType := .error
                    payload :=
                      .text "ClientHello timestamp outside acceptable window" }] }) := by
  simp [serverStep, there, Run.advance, serverHello, accepted, outside]

theorem serverStep_done {challengeResponse sigC : List β}
    (there : run.point = .clientResponse nonceC nonceS)
    (accepted : readClientResponse suite frame = .ok (challengeResponse, sigC))
    (challenge : suite.verifyHmac (nonceS ++ nonceC) challengeResponse
      suite.challengeKey = true)
    (verified : suite.verify clientKey (nonceS ++ nonceC) sigC = true) :
    serverStep suite clientKey serverKey draws run
        (.clientResponse (.ok frame) none) =
      some (draws + 1 + 1 + 1,
        { point := .returned nonceC nonceS
            (handshakeKeys suite (suite.urandom draws sessionIdSize)
              (suite.urandom (draws + 1) aesKeySize))
          log := run.log ++ [.received frame, .drew draws, .drew (draws + 1),
            .drew (draws + 1 + 1),
            .sent { msgType := .handshakeServerDone
                    payload := serverDonePayload (suite.urandom draws sessionIdSize)
                      (suite.encrypt clientKey (suite.urandom (draws + 1) aesKeySize)
                        (suite.urandom (draws + 1 + 1) oaepSeedSize)) }] }) := by
  simp [serverStep, there, Run.advance, serverDone, accepted, challenge, verified]

theorem serverStep_forged {challengeResponse sigC : List β}
    (there : run.point = .clientResponse nonceC nonceS)
    (accepted : readClientResponse suite frame = .ok (challengeResponse, sigC))
    (challenge : suite.verifyHmac (nonceS ++ nonceC) challengeResponse
      suite.challengeKey = true)
    (unverified : suite.verify clientKey (nonceS ++ nonceC) sigC = false)
    (fault : Option PyError) :
    serverStep suite clientKey serverKey draws run
        (.clientResponse (.ok frame) fault) =
      some (draws,
        { point := .raised
            (.py (.valueError "Client signature verification FAILED"))
          log := run.log ++ [.received frame,
            .sent { msgType := .error
                    payload := .text "Client signature verification failed" }] }) := by
  simp [serverStep, there, Run.advance, serverDone, accepted, challenge, unverified]

theorem serverStep_deserted (there : run.point = .clientResponse nonceC nonceS)
    (failure : PyError) (fault : Option PyError) :
    serverStep suite clientKey serverKey draws run
        (.clientResponse (.error failure) fault) =
      some (draws, { point := .raised (.py failure), log := run.log ++ [] }) := by
  simp [serverStep, there, Run.advance, serverDone]

end

end

/-! The stages of the two runs. -/

section

variable {κ : Type} [DecidableEq κ] {P : Primitives} (S : IdealSuite P κ)
  (setting : HandshakeSetting κ)

/-- When the two sides are configured for each other and their clocks are near. -/
structure HandshakeSetting.Agrees : Prop where
  server : setting.serverPublicKey = setting.serverPrivateKey
  client : setting.clientPublicKey = setting.clientPrivateKey
  clientHello : drift setting.serverClock setting.tsC ≤ maxTimestampDrift
  serverHello : drift setting.clientClock setting.tsS ≤ maxTimestampDrift

def clientHelloFrame (nonceC : Bytes) : Frame UInt8 :=
  { msgType := .handshakeClientHello
    payload := clientHelloPayload nonceC setting.tsC }

def serverHelloFrame (nonceC nonceS salt : Bytes) : Frame UInt8 :=
  { msgType := .handshakeServerHello
    payload := serverHelloPayload nonceS setting.tsS
      (challengeOf S (nonceC ++ nonceS))
      (S.sign setting.serverPrivateKey (nonceC ++ nonceS) salt) }

def clientResponseFrame (nonceC nonceS salt : Bytes) : Frame UInt8 :=
  { msgType := .handshakeClientResponse
    payload := clientResponsePayload (challengeOf S (nonceS ++ nonceC))
      (S.sign setting.clientPrivateKey (nonceS ++ nonceC) salt) }

def serverDoneFrame (sessionId sessionKey seed : Bytes) : Frame UInt8 :=
  { msgType := .handshakeServerDone
    payload := serverDonePayload sessionId
      (S.encrypt setting.clientPublicKey sessionKey seed) }

def errorFrame (message : String) : Frame UInt8 :=
  { msgType := .error, payload := .text message }

/-- Where both sides are, what is on the way to either, and who has closed.  At
most one frame is on the way. -/
inductive Stage : (client : ClientPoint UInt8) → (server : ServerPoint UInt8) →
    (toServer toClient : Bytes) → (clientClosed serverClosed : Bool) → Prop
  | idle : Stage .clientHello .clientHello [] [] false false
  | greeted (nonceC bytes : Bytes) (short : nonceC.length ≤ rsaLimit)
      (built : handshakeFrame P (clientHelloFrame setting nonceC) = .ok bytes) :
      Stage (.serverHello nonceC) .clientHello bytes [] false false
  | late (nonceC bytes : Bytes) (error : HandshakeError UInt8) (message : String)
      (built : handshakeFrame P (errorFrame message) = .ok bytes)
      (differs : ¬ setting.Agrees) :
      Stage (.serverHello nonceC) (.raised error) [] bytes false true
  | answered (nonceC nonceS salt bytes : Bytes) (short : nonceS.length ≤ rsaLimit)
      (built : handshakeFrame P (serverHelloFrame S setting nonceC nonceS salt) =
        .ok bytes)
      (inside : drift setting.serverClock setting.tsC ≤ maxTimestampDrift) :
      Stage (.serverHello nonceC) (.clientResponse nonceC nonceS) [] bytes false
        false
  | deserted (error : HandshakeError UInt8) (nonceC nonceS : Bytes)
      (differs : ¬ setting.Agrees) :
      Stage (.raised error) (.clientResponse nonceC nonceS) [] [] true false
  | responded (nonceC nonceS salt bytes : Bytes)
      (built : handshakeFrame P (clientResponseFrame S setting nonceC nonceS salt) =
        .ok bytes)
      (agrees : setting.clientPublicKey = setting.clientPrivateKey →
        setting.Agrees) :
      Stage (.serverDone nonceC nonceS) (.clientResponse nonceC nonceS) bytes []
        false false
  | refused (nonceC nonceS bytes : Bytes) (error : HandshakeError UInt8)
      (message : String)
      (built : handshakeFrame P (errorFrame message) = .ok bytes)
      (differs : ¬ setting.Agrees) :
      Stage (.serverDone nonceC nonceS) (.raised error) [] bytes false true
  | done (nonceC nonceS sessionId sessionKey seed bytes : Bytes)
      (short : sessionId.length ≤ rsaLimit) (size : sessionKey.length = aesKeySize)
      (built : handshakeFrame P (serverDoneFrame S setting sessionId sessionKey seed) =
        .ok bytes)
      (agrees : setting.Agrees) :
      Stage (.serverDone nonceC nonceS)
        (.returned nonceC nonceS (handshakeKeys S.toSuite sessionId sessionKey)) []
        bytes false false
  | agreed (nonceC nonceS : Bytes) (keys : HandshakeKeys UInt8)
      (agrees : setting.Agrees) :
      Stage (.returned nonceC nonceS keys) (.returned nonceC nonceS keys) [] []
        false false
  | failed (clientError serverError : HandshakeError UInt8)
      (differs : ¬ setting.Agrees) :
      Stage (.raised clientError) (.raised serverError) [] [] true true

namespace HandshakeNet

variable (s : HandshakeNet κ)

structure At (client : ClientPoint UInt8) (server : ServerPoint UInt8)
    (toServer toClient : Bytes) (clientClosed serverClosed : Bool) : Prop where
  client : s.client.point = client
  server : s.server.point = server
  toServer : s.toServer.stream = toServer
  toClient : s.toClient.stream = toClient
  clientClosed : s.toServer.closed = clientClosed
  serverClosed : s.toClient.closed = serverClosed

def Staged : Prop :=
  Stage S setting s.client.point s.server.point s.toServer.stream s.toClient.stream
    s.toServer.closed s.toClient.closed

def Finished : Prop :=
  (s.client.point.Raised ∨ s.client.point.keys.isSome) ∧
    (s.server.point.Raised ∨ s.server.point.keys.isSome)

end HandshakeNet

/-! A bound on what is still to happen. -/

def ClientPoint.rank {β : Type} : ClientPoint β → ℕ
  | .clientHello => 3
  | .serverHello _ => 2
  | .serverDone _ _ => 1
  | .returned _ _ _ | .raised _ => 0

def ServerPoint.rank {β : Type} : ServerPoint β → ℕ
  | .clientHello => 2
  | .clientResponse _ _ => 1
  | .returned _ _ _ | .raised _ => 0

/-- A turn, and the deliveries of the frame that it sends. -/
def turnBound : ℕ := 1 + (headerSize + maxFrameSize)

def HandshakeNet.potential (s : HandshakeNet κ) : ℕ :=
  (s.client.point.rank + s.server.point.rank) * turnBound +
    (s.toServer.inflight.length + s.toClient.inflight.length)

/-- The one side whose turn it is takes it as soon as all has arrived. -/
inductive HandshakeNet.Moves (s : HandshakeNet κ) : Prop
  | client (waits : ∀ cuts, s.serverTurn P S setting cuts = none)
      (next : List ℕ → HandshakeNet κ)
      (takes : ∀ cuts, s.clientTurn P S setting cuts =
        if s.toClient.inflight = [] then some (next cuts) else none)
      (staged : s.toClient.inflight = [] → ∀ cuts, (next cuts).Staged S setting)
      (less : ∀ cuts, (next cuts).potential < s.potential)
  | server (waits : ∀ cuts, s.clientTurn P S setting cuts = none)
      (next : List ℕ → HandshakeNet κ)
      (takes : ∀ cuts, s.serverTurn P S setting cuts =
        if s.toServer.inflight = [] then some (next cuts) else none)
      (staged : s.toServer.inflight = [] → ∀ cuts, (next cuts).Staged S setting)
      (less : ∀ cuts, (next cuts).potential < s.potential)
  | ended (clientWaits : ∀ cuts, s.clientTurn P S setting cuts = none)
      (serverWaits : ∀ cuts, s.serverTurn P S setting cuts = none)
      (finished : s.Finished)

end

/-! Turns. -/

section

variable {κ : Type} {P : Primitives} {pipe : Pipe} {bytes : Bytes}
  {frame : Frame UInt8}

theorem recvHandshake_of_stream (built : handshakeFrame P frame = .ok bytes)
    (whole : pipe.stream = bytes) (cuts : List ℕ) :
    recvHandshake P pipe cuts =
      if pipe.inflight = [] then
        some (.ok frame.arrived, { pipe with arrived := [] })
      else none := by
  rw [recvHandshake, Pipe.recvFrame_of_stream built whole]
  split <;> rfl

theorem recvHandshake_of_open (silent : pipe.stream = [])
    (opened : pipe.closed = false) (cuts : List ℕ) :
    recvHandshake P pipe cuts = none := by
  rw [recvHandshake, Pipe.recvFrame_of_open silent opened]
  rfl

theorem recvHandshake_of_closed (silent : pipe.stream = [])
    (closed : pipe.closed = true) (cuts : List ℕ) :
    ∃ failure, recvHandshake P pipe cuts = some (.error failure, pipe) := by
  obtain ⟨message, received⟩ := Pipe.recvFrame_of_closed silent closed cuts
  refine ⟨.connectionError message, ?_⟩
  rw [recvHandshake, received]
  rfl

/-- The bytes that a stretch of a log puts on the connection. -/
def Sends (P : Primitives) (log : List (Action UInt8 κ)) (sent : Bytes) : Prop :=
  ∃ frames, (sentFrames log).mapM (handshakeFrame P) = .ok frames ∧
    frames.flatten = sent

theorem sends_none {log : List (Action UInt8 κ)} (silent : sentFrames log = []) :
    Sends P log [] := by
  refine ⟨[], ?_, rfl⟩
  rw [silent]
  rfl

theorem sends_one {log : List (Action UInt8 κ)} (only : sentFrames log = [frame])
    (built : handshakeFrame P frame = .ok bytes) : Sends P log bytes := by
  refine ⟨[bytes], ?_, List.flatten_singleton⟩
  rw [only, List.mapM_cons, built]
  rfl

theorem sendOver_eq_some {π : Type} {run moved : Run π UInt8 κ} {draws : ℕ}
    {log : List (Action UInt8 κ)} {sent : Bytes}
    {block : Option PyError → Option (ℕ × Run π UInt8 κ)}
    (ran : block none = some (draws, moved)) (logged : moved.log = run.log ++ log)
    (sends : Sends P log sent) :
    sendOver P run block = some (draws, moved, sent) := by
  obtain ⟨frames, built, rfl⟩ := sends
  simp only [sendOver, ran, logged, List.drop_left, built, Option.bind_eq_bind,
    Option.bind_some, Option.pure_def]

namespace HandshakeNet

variable {s : HandshakeNet κ} {log : List (Action UInt8 κ)}
  {sent : Bytes}

/-! What a turn leaves to happen. -/

theorem potential_client (draws : ℕ) {client : ClientRun UInt8 κ} {toClient : Pipe}
    (lower : client.point.rank < s.client.point.rank)
    (short : sent.length < turnBound)
    (same : toClient.inflight = s.toClient.inflight) (closes : Bool) :
    { s with
      draws, client
      toServer := s.toServer.write sent closes
      toClient }.potential < s.potential := by
  have ranks : (client.point.rank + s.server.point.rank + 1) * turnBound ≤
      (s.client.point.rank + s.server.point.rank) * turnBound :=
    Nat.mul_le_mul_right turnBound (by omega)
  rw [Nat.add_mul, Nat.one_mul] at ranks
  simp only [potential, Pipe.write, List.length_append, same]
  omega

theorem potential_server (draws : ℕ) {server : ServerRun UInt8 κ} {toServer : Pipe}
    (lower : server.point.rank < s.server.point.rank)
    (short : sent.length < turnBound)
    (same : toServer.inflight = s.toServer.inflight) (closes : Bool) :
    { s with
      draws, server, toServer
      toClient := s.toClient.write sent closes }.potential <
      s.potential := by
  have ranks : (s.client.point.rank + server.point.rank + 1) * turnBound ≤
      (s.client.point.rank + s.server.point.rank) * turnBound :=
    Nat.mul_le_mul_right turnBound (by omega)
  rw [Nat.add_mul, Nat.one_mul] at ranks
  simp only [potential, Pipe.write, List.length_append, same]
  omega

variable [DecidableEq κ] (S : IdealSuite P κ) (setting : HandshakeSetting κ)
  {draws : ℕ}

theorem clientBlock_eq_some {event : Option PyError → ClientEvent UInt8}
    {point : ClientPoint UInt8}
    (ran : Auth.clientStep S.toSuite setting.clientPrivateKey
      setting.serverPublicKey s.draws s.client (event none) =
        some (draws, { point, log := s.client.log ++ log }))
    (sends : Sends P log sent) :
    s.clientBlock P S setting event =
      some { s with
        draws
        client := { point, log := s.client.log ++ log }
        toServer := s.toServer.write sent point.Raised } := by
  have sent : sendOver P s.client (fun fault => Auth.clientStep S.toSuite
      setting.clientPrivateKey setting.serverPublicKey s.draws s.client
      (event fault)) = some _ := sendOver_eq_some ran rfl sends
  rw [clientBlock, sent]
  rfl

theorem serverBlock_eq_some {event : Option PyError → ServerEvent UInt8}
    {point : ServerPoint UInt8}
    (ran : Auth.serverStep S.toSuite setting.clientPublicKey
      setting.serverPrivateKey s.draws s.server (event none) =
        some (draws, { point, log := s.server.log ++ log }))
    (sends : Sends P log sent) :
    s.serverBlock P S setting event =
      some { s with
        draws
        server := { point, log := s.server.log ++ log }
        toClient := s.toClient.write sent point.Raised } := by
  have sent : sendOver P s.server (fun fault => Auth.serverStep S.toSuite
      setting.clientPublicKey setting.serverPrivateKey s.draws s.server
      (event fault)) = some _ := sendOver_eq_some ran rfl sends
  rw [serverBlock, sent]
  rfl

/-! A side that waits. -/

theorem clientTurn_waits (silent : s.toClient.stream = [])
    (opened : s.toClient.closed = false) (begun : s.client.point ≠ .clientHello)
    (cuts : List ℕ) : s.clientTurn P S setting cuts = none := by
  unfold clientTurn
  rw [recvHandshake_of_open silent opened]
  split
  next there => exact absurd there begun
  all_goals rfl

theorem serverTurn_waits (silent : s.toServer.stream = [])
    (opened : s.toServer.closed = false) (cuts : List ℕ) :
    s.serverTurn P S setting cuts = none := by
  unfold serverTurn
  rw [recvHandshake_of_open silent opened]
  split <;> rfl

theorem clientTurn_over (ended : s.client.point.rank = 0) (cuts : List ℕ) :
    s.clientTurn P S setting cuts = none := by
  unfold clientTurn
  split
  next there => cases there ▸ ended
  next there => cases there ▸ ended
  next there => cases there ▸ ended
  all_goals rfl

theorem serverTurn_over (ended : s.server.point.rank = 0) (cuts : List ℕ) :
    s.serverTurn P S setting cuts = none := by
  unfold serverTurn
  split
  next there => cases there ▸ ended
  next there => cases there ▸ ended
  all_goals rfl

/-! A side that takes its turn. -/

theorem clientTurn_starts (there : s.client.point = .clientHello)
    (silent : s.toClient.stream = []) {point : ClientPoint UInt8}
    (ran : Auth.clientStep S.toSuite setting.clientPrivateKey
      setting.serverPublicKey s.draws s.client (.start setting.tsC none) =
        some (draws, { point, log := s.client.log ++ log }))
    (sends : Sends P log sent) (cuts : List ℕ) :
    s.clientTurn P S setting cuts =
      if s.toClient.inflight = [] then
        some { s with
          draws
          client := { point, log := s.client.log ++ log }
          toServer := s.toServer.write sent point.Raised
          toClient := { s.toClient with arrived := [] } }
      else none := by
  obtain ⟨arrived, inflight⟩ := List.append_eq_nil_iff.mp silent
  have same : { s.toClient with arrived := [] } = s.toClient := by rw [← arrived]
  rw [if_pos inflight, same, clientTurn, there]
  exact clientBlock_eq_some S setting ran sends

theorem clientTurn_takes
    (event : Except PyError (Frame UInt8) → Option PyError → ClientEvent UInt8)
    (built : handshakeFrame P frame = .ok bytes) (whole : s.toClient.stream = bytes)
    (reads : ∀ cuts, s.clientTurn P S setting cuts =
      (recvHandshake P s.toClient cuts).bind fun (received, toClient) =>
        { s with toClient }.clientBlock P S setting (event received))
    {point : ClientPoint UInt8}
    (ran : Auth.clientStep S.toSuite setting.clientPrivateKey
      setting.serverPublicKey s.draws s.client (event (.ok frame.arrived) none) =
        some (draws, { point, log := s.client.log ++ log }))
    (sends : Sends P log sent)
    (cuts : List ℕ) :
    s.clientTurn P S setting cuts =
      if s.toClient.inflight = [] then
        some { s with
          draws
          client := { point, log := s.client.log ++ log }
          toServer := s.toServer.write sent point.Raised
          toClient := { s.toClient with arrived := [] } }
      else none := by
  rw [reads, recvHandshake_of_stream built whole]
  split
  · exact clientBlock_eq_some S setting
      (s := { s with toClient := { s.toClient with arrived := [] } }) ran sends
  · rfl

theorem serverTurn_takes
    (event : Except PyError (Frame UInt8) → Option PyError → ServerEvent UInt8)
    (built : handshakeFrame P frame = .ok bytes) (whole : s.toServer.stream = bytes)
    (reads : ∀ cuts, s.serverTurn P S setting cuts =
      (recvHandshake P s.toServer cuts).bind fun (received, toServer) =>
        { s with toServer }.serverBlock P S setting (event received))
    {point : ServerPoint UInt8}
    (ran : Auth.serverStep S.toSuite setting.clientPublicKey
      setting.serverPrivateKey s.draws s.server (event (.ok frame.arrived) none) =
        some (draws, { point, log := s.server.log ++ log }))
    (sends : Sends P log sent)
    (cuts : List ℕ) :
    s.serverTurn P S setting cuts =
      if s.toServer.inflight = [] then
        some { s with
          draws
          server := { point, log := s.server.log ++ log }
          toServer := { s.toServer with arrived := [] }
          toClient := s.toClient.write sent point.Raised }
      else none := by
  rw [reads, recvHandshake_of_stream built whole]
  split
  · exact serverBlock_eq_some S setting
      (s := { s with toServer := { s.toServer with arrived := [] } }) ran sends
  · rfl

end HandshakeNet

end

/-! From each stage to the next. -/

section

variable {κ : Type} [DecidableEq κ] {P : Primitives} {S : IdealSuite P κ}
  {setting : HandshakeSetting κ} {s : HandshakeNet κ} {nonceC nonceS salt bytes : Bytes}

theorem outsideWindow_float (clock value : ℚ) :
    outsideWindow clock (.number (.float value) : JsonValue UInt8) =
      .ok (decide (maxTimestampDrift < drift clock value)) := rfl

theorem handshakeFrame_short {frame : Frame UInt8}
    (short : frame.payload.encode.length ≤ 1000000) :
    ∃ bytes, handshakeFrame P frame = .ok bytes ∧ bytes.length < turnBound := by
  obtain ⟨bytes, built, -, small⟩ := handshakeFrame_of_short P short
  refine ⟨bytes, built, ?_⟩
  rw [turnBound]
  omega

theorem urandom_short (S : IdealSuite P κ) (draw : ℕ) {size : ℕ}
    (small : size ≤ rsaLimit) : (S.urandom draw size).length ≤ rsaLimit := by
  rw [S.urandom_length]
  exact small

variable {client : ClientPoint UInt8} {server : ServerPoint UInt8}
  {toServer toClient : Bytes} {clientClosed serverClosed : Bool}

theorem HandshakeNet.Moves.ofClient
    (here : s.At client server toServer toClient clientClosed serverClosed)
    (waits : ∀ cuts, s.serverTurn P S setting cuts = none)
    {draws : ℕ} {point : ClientPoint UInt8} {log : List (Action UInt8 κ)}
    {sent : Bytes}
    (takes : ∀ cuts, s.clientTurn P S setting cuts =
      if s.toClient.inflight = [] then
        some { s with
          draws
          client := { point, log := s.client.log ++ log }
          toServer := s.toServer.write sent point.Raised
          toClient := { s.toClient with arrived := [] } }
      else none)
    (staged : Stage S setting point server (toServer ++ sent) []
      point.Raised serverClosed)
    (lower : point.rank < client.rank) (short : sent.length < turnBound) :
    s.Moves S setting := by
  refine .client waits (fun _ => _) takes (fun arrived _ => ?_) (fun _ => ?_)
  · have empty : Pipe.stream { s.toClient with arrived := [] } = [] := arrived
    rw [HandshakeNet.Staged, Pipe.stream_write, empty, here.toServer, here.server]
    change Stage S setting point server _ [] point.Raised s.toClient.closed
    rw [here.serverClosed]
    exact staged
  · exact HandshakeNet.potential_client draws (here.client ▸ lower) short rfl _

theorem HandshakeNet.Moves.ofServer
    (here : s.At client server toServer toClient clientClosed serverClosed)
    (waits : ∀ cuts, s.clientTurn P S setting cuts = none)
    {draws : ℕ} {point : ServerPoint UInt8} {log : List (Action UInt8 κ)}
    {sent : Bytes}
    (takes : ∀ cuts, s.serverTurn P S setting cuts =
      if s.toServer.inflight = [] then
        some { s with
          draws
          server := { point, log := s.server.log ++ log }
          toServer := { s.toServer with arrived := [] }
          toClient := s.toClient.write sent point.Raised }
      else none)
    (staged : Stage S setting client point [] (toClient ++ sent)
      clientClosed point.Raised)
    (lower : point.rank < server.rank) (short : sent.length < turnBound) :
    s.Moves S setting := by
  refine .server waits (fun _ => _) takes (fun arrived _ => ?_) (fun _ => ?_)
  · have empty : Pipe.stream { s.toServer with arrived := [] } = [] := arrived
    rw [HandshakeNet.Staged, Pipe.stream_write, empty, here.toClient, here.client]
    change Stage S setting client point [] _ s.toServer.closed point.Raised
    rw [here.clientClosed]
    exact staged
  · exact HandshakeNet.potential_server draws (here.server ▸ lower) short rfl _

theorem serverHello_reads (there : s.client.point = .serverHello nonceC)
    (cuts : List ℕ) :
    s.clientTurn P S setting cuts =
      (recvHandshake P s.toClient cuts).bind fun (received, toClient) =>
        { s with toClient }.clientBlock P S setting fun fault =>
          .serverHello received setting.clientClock fault := by
  rw [HandshakeNet.clientTurn, there]
  rfl

theorem serverDone_reads (there : s.client.point = .serverDone nonceC nonceS)
    (cuts : List ℕ) :
    s.clientTurn P S setting cuts =
      (recvHandshake P s.toClient cuts).bind fun (received, toClient) =>
        { s with toClient }.clientBlock P S setting fun _ => .serverDone received := by
  rw [HandshakeNet.clientTurn, there]
  rfl

theorem clientHello_reads (there : s.server.point = .clientHello) (cuts : List ℕ) :
    s.serverTurn P S setting cuts =
      (recvHandshake P s.toServer cuts).bind fun (received, toServer) =>
        { s with toServer }.serverBlock P S setting fun fault =>
          .clientHello received setting.serverClock setting.tsS fault := by
  rw [HandshakeNet.serverTurn, there]
  rfl

theorem clientResponse_reads (there : s.server.point = .clientResponse nonceC nonceS)
    (cuts : List ℕ) :
    s.serverTurn P S setting cuts =
      (recvHandshake P s.toServer cuts).bind fun (received, toServer) =>
        { s with toServer }.serverBlock P S setting fun fault =>
          .clientResponse received fault := by
  rw [HandshakeNet.serverTurn, there]
  rfl

theorem moves_idle (here : s.At .clientHello .clientHello [] [] false false) :
    s.Moves S setting := by
  have nonce := urandom_short S s.draws (show nonceSize ≤ rsaLimit by decide)
  obtain ⟨bytes, built, small⟩ := @handshakeFrame_short P
    (clientHelloFrame setting (S.urandom s.draws nonceSize))
    (clientHello_sendable nonce setting.tsC).encode_length
  refine .ofClient here (HandshakeNet.serverTurn_waits S setting here.toServer
      here.clientClosed)
    (HandshakeNet.clientTurn_starts S setting here.client here.toClient
      (clientStep_hello S.toSuite here.client) (sends_one ?_ built))
    (.greeted _ bytes nonce built) (Nat.lt_add_one 2) small
  rfl

theorem moves_greeted (short : nonceC.length ≤ rsaLimit)
    (built : handshakeFrame P (clientHelloFrame setting nonceC) = .ok bytes)
    (here : s.At (.serverHello nonceC) .clientHello bytes [] false false) :
    s.Moves S setting := by
  have waits := HandshakeNet.clientTurn_waits S setting here.toClient
    here.serverClosed (by rw [here.client]; nofun)
  have accepted := readClientHello_arrived S short setting.tsC
  have window := outsideWindow_float setting.serverClock setting.tsC
  by_cases inside : drift setting.serverClock setting.tsC ≤ maxTimestampDrift
  · rw [decide_eq_false (not_lt.mpr inside)] at window
    have nonce := urandom_short S s.draws (show nonceSize ≤ rsaLimit by decide)
    obtain ⟨answer, sent, small⟩ := @handshakeFrame_short P
      (serverHelloFrame S setting nonceC (S.urandom s.draws nonceSize)
        (S.urandom (s.draws + 1) pssSaltSize))
      (serverHello_sendable nonce (challengeOf_length S _)
        (S.sign_length _ _ _) setting.tsS).encode_length
    refine .ofServer here waits (HandshakeNet.serverTurn_takes S setting
        (fun received fault => .clientHello received setting.serverClock setting.tsS fault)
        built here.toServer (clientHello_reads here.server) (serverStep_hello S.toSuite here.server accepted window)
        (sends_one ?_ sent))
      (.answered _ _ _ answer nonce sent inside) (Nat.lt_add_one 1) small
    rfl
  · rw [decide_eq_true (not_le.mp inside)] at window
    obtain ⟨answer, sent, small⟩ := @handshakeFrame_short P
      (errorFrame "ClientHello timestamp outside acceptable window") (by decide +kernel)
    refine .ofServer here waits (HandshakeNet.serverTurn_takes S setting
        (fun received fault => .clientHello received setting.serverClock setting.tsS fault)
        built here.toServer (clientHello_reads here.server)
        (serverStep_late S.toSuite here.server accepted window none)
        (sends_one ?_ sent))
      (.late _ answer _ _ sent fun agrees => inside agrees.clientHello)
      Nat.two_pos small
    rfl

theorem moves_late {error : HandshakeError UInt8} {message : String}
    (built : handshakeFrame P (errorFrame message) = .ok bytes)
    (differs : ¬ setting.Agrees)
    (here : s.At (.serverHello nonceC) (.raised error) [] bytes false true) :
    s.Moves S setting := by
  have waits := HandshakeNet.serverTurn_over S setting (s := s) (by rw [here.server]; rfl)
  cases read : readServerHello S.toSuite setting.serverPublicKey nonceC
      setting.clientClock (errorFrame message).arrived with
  | ok result => cases (readServerHello_eq_ok.mp read).1
  | error raised =>
      refine .ofClient here waits (HandshakeNet.clientTurn_takes S setting
          (fun received fault => .serverHello received setting.clientClock fault)
          built here.toClient (serverHello_reads here.client) (clientStep_rejects S.toSuite here.client read none)
          (sends_none ?_))
        (.failed _ _ differs) Nat.two_pos (by decide)
      rfl

theorem moves_answered (short : nonceS.length ≤ rsaLimit)
    (built : handshakeFrame P (serverHelloFrame S setting nonceC nonceS salt) =
      .ok bytes)
    (inside : drift setting.serverClock setting.tsC ≤ maxTimestampDrift)
    (here : s.At (.serverHello nonceC) (.clientResponse nonceC nonceS) [] bytes false
      false) : s.Moves S setting := by
  have waits := HandshakeNet.serverTurn_waits S setting here.toServer here.clientClosed
  cases read : readServerHello S.toSuite setting.serverPublicKey nonceC
      setting.clientClock (serverHelloFrame S setting nonceC nonceS salt).arrived with
  | ok result =>
      obtain ⟨rfl, window, trusted⟩ := (readServerHello_arrived S short).mp read
      obtain ⟨answer, sent, small⟩ := @handshakeFrame_short P
        (clientResponseFrame S setting nonceC result (S.urandom s.draws pssSaltSize))
        (pair_sendable (by decide) (by decide) (by decide) (challengeOf_length S _)
          (S.sign_length _ _ _)).encode_length
      refine .ofClient here waits (HandshakeNet.clientTurn_takes S setting
          (fun received fault => .serverHello received setting.clientClock fault)
          built here.toClient (serverHello_reads here.client) (clientStep_response S.toSuite here.client read)
          (sends_one ?_ sent))
        (.responded _ _ _ answer sent fun own => ⟨trusted, own, inside, window⟩)
        (Nat.lt_add_one 1) small
      rfl
  | error raised =>
      have differs : ¬ setting.Agrees := by
        intro agrees
        cases ((readServerHello_arrived S short).mpr
          ⟨rfl, agrees.serverHello, agrees.server⟩).symm.trans read
      refine .ofClient here waits (HandshakeNet.clientTurn_takes S setting
          (fun received fault => .serverHello received setting.clientClock fault)
          built here.toClient (serverHello_reads here.client) (clientStep_rejects S.toSuite here.client read none)
          (sends_none ?_))
        (.deserted _ _ _ differs) Nat.two_pos (by decide)
      rfl

theorem moves_deserted {error : HandshakeError UInt8} (differs : ¬ setting.Agrees)
    (here : s.At (.raised error) (.clientResponse nonceC nonceS) [] [] true false) :
    s.Moves S setting := by
  have waits := HandshakeNet.clientTurn_over S setting (s := s) (by rw [here.client]; rfl)
  have silent := (List.append_eq_nil_iff.mp here.toServer).2
  have takes (cuts : List ℕ) : ∃ failure, s.serverTurn P S setting cuts =
      some { s with
        server := { point := .raised (.py failure), log := s.server.log ++ [] }
        toClient := s.toClient.write [] true } := by
    obtain ⟨failure, received⟩ :=
      recvHandshake_of_closed here.toServer here.clientClosed cuts
    refine ⟨failure, ?_⟩
    rw [clientResponse_reads here.server, received]
    exact HandshakeNet.serverBlock_eq_some S setting
      (serverStep_deserted S.toSuite here.server failure none) (sends_none rfl)
  choose failure takes using takes
  refine .server waits (fun cuts => _)
    (fun cuts => (takes cuts).trans (if_pos silent).symm) (fun _ cuts => ?_)
    (fun cuts => ?_)
  · rw [HandshakeNet.Staged, Pipe.stream_write, here.client, here.toServer,
      here.toClient, here.clientClosed]
    exact .failed _ _ differs
  · exact HandshakeNet.potential_server s.draws (by rw [here.server]; exact Nat.one_pos)
      (by decide) rfl true

theorem moves_responded
    (built : handshakeFrame P (clientResponseFrame S setting nonceC nonceS salt) =
      .ok bytes)
    (agrees : setting.clientPublicKey = setting.clientPrivateKey → setting.Agrees)
    (here : s.At (.serverDone nonceC nonceS) (.clientResponse nonceC nonceS) bytes []
      false false) : s.Moves S setting := by
  have waits := HandshakeNet.clientTurn_waits S setting here.toClient
    here.serverClosed (by rw [here.client]; nofun)
  have accepted : readClientResponse S.toSuite
      (clientResponseFrame S setting nonceC nonceS salt).arrived = _ :=
    readClientResponse_arrived S (nonceS ++ nonceC) (nonceS ++ nonceC) salt
  have challenge : S.toSuite.verifyHmac (nonceS ++ nonceC)
      (challengeOf S (nonceS ++ nonceC)) S.toSuite.challengeKey = true :=
    decide_eq_true rfl
  have verified := S.verify_sign setting.clientPublicKey setting.clientPrivateKey
    (nonceS ++ nonceC) salt
  by_cases own : setting.clientPublicKey = setting.clientPrivateKey
  · rw [decide_eq_true own] at verified
    have session := urandom_short S s.draws (show sessionIdSize ≤ rsaLimit by decide)
    obtain ⟨answer, sent, small⟩ := @handshakeFrame_short P
      (serverDoneFrame S setting (S.urandom s.draws sessionIdSize)
        (S.urandom (s.draws + 1) aesKeySize)
        (S.urandom (s.draws + 1 + 1) oaepSeedSize))
      (pair_sendable (by decide) (by decide) (by decide) session
        (S.encrypt_length _ _ _)).encode_length
    refine .ofServer here waits (HandshakeNet.serverTurn_takes S setting
        (fun received fault => .clientResponse received fault)
        built here.toServer (clientResponse_reads here.server)
        (serverStep_done S.toSuite here.server accepted challenge verified)
        (sends_one ?_ sent))
      (.done _ _ _ _ _ answer session (S.urandom_length _ _) sent (agrees own)) Nat.one_pos small
    rfl
  · rw [decide_eq_false own] at verified
    obtain ⟨answer, sent, small⟩ := @handshakeFrame_short P
      (errorFrame "Client signature verification failed") (by decide +kernel)
    refine .ofServer here waits (HandshakeNet.serverTurn_takes S setting
        (fun received fault => .clientResponse received fault)
        built here.toServer (clientResponse_reads here.server)
        (serverStep_forged S.toSuite here.server accepted challenge verified none)
        (sends_one ?_ sent))
      (.refused _ _ answer _ _ sent fun agrees => own agrees.client)
      Nat.one_pos small
    rfl

theorem moves_refused {error : HandshakeError UInt8} {message : String}
    (built : handshakeFrame P (errorFrame message) = .ok bytes)
    (differs : ¬ setting.Agrees)
    (here : s.At (.serverDone nonceC nonceS) (.raised error) [] bytes false true) :
    s.Moves S setting := by
  have waits := HandshakeNet.serverTurn_over S setting (s := s) (by rw [here.server]; rfl)
  cases read : readServerDone S.toSuite setting.clientPrivateKey
      (errorFrame message).arrived with
  | ok result => cases (readServerDone_eq_ok.mp read).1
  | error raised =>
      refine .ofClient here waits (HandshakeNet.clientTurn_takes S setting
          (fun received _ => .serverDone received) built here.toClient
          (serverDone_reads here.client)
          (clientStep_refused S.toSuite here.client read) (sends_none ?_))
        (.failed _ _ differs) Nat.one_pos (by decide)
      rfl

theorem moves_done {sessionId sessionKey seed : Bytes}
    (short : sessionId.length ≤ rsaLimit) (size : sessionKey.length = aesKeySize)
    (built : handshakeFrame P (serverDoneFrame S setting sessionId sessionKey seed) =
      .ok bytes)
    (agrees : setting.Agrees)
    (here : s.At (.serverDone nonceC nonceS)
      (.returned nonceC nonceS (handshakeKeys S.toSuite sessionId sessionKey)) []
      bytes false false) : s.Moves S setting := by
  have waits := HandshakeNet.serverTurn_over S setting (s := s) (by rw [here.server]; rfl)
  have read : readServerDone S.toSuite setting.clientPrivateKey
      (serverDoneFrame S setting sessionId sessionKey seed).arrived =
        .ok (sessionId, sessionKey) := by
    rw [serverDoneFrame, agrees.client]
    exact readServerDone_arrived S setting.clientPrivateKey short size seed
  refine .ofClient here waits (HandshakeNet.clientTurn_takes S setting
      (fun received _ => .serverDone received) built here.toClient
      (serverDone_reads here.client)
      (clientStep_finish S.toSuite here.client read) (sends_none ?_))
    (.agreed _ _ _ agrees) Nat.one_pos (by decide)
  rfl

theorem HandshakeNet.Staged.moves (staged : s.Staged S setting) :
    s.Moves S setting := by
  have here : s.At s.client.point s.server.point s.toServer.stream s.toClient.stream
    s.toServer.closed s.toClient.closed := ⟨rfl, rfl, rfl, rfl, rfl, rfl⟩
  rw [HandshakeNet.Staged] at staged
  generalize s.client.point = client, s.server.point = server,
    s.toServer.stream = toServer, s.toClient.stream = toClient,
    s.toServer.closed = clientClosed, s.toClient.closed = serverClosed at staged here
  cases staged with
  | idle => exact moves_idle here
  | greeted nonceC bytes short built => exact moves_greeted short built here
  | late nonceC bytes error message built differs => exact moves_late built differs here
  | answered nonceC nonceS salt bytes short built inside =>
      exact moves_answered short built inside here
  | deserted error nonceC nonceS differs => exact moves_deserted differs here
  | responded nonceC nonceS salt bytes built agrees =>
      exact moves_responded built agrees here
  | refused nonceC nonceS bytes error message built differs =>
      exact moves_refused built differs here
  | done nonceC nonceS sessionId sessionKey seed bytes short size built agrees =>
      exact moves_done short size built agrees here
  | agreed nonceC nonceS keys agrees =>
      refine .ended (HandshakeNet.clientTurn_over S setting (by rw [here.client]; rfl))
        (HandshakeNet.serverTurn_over S setting (by rw [here.server]; rfl)) ?_
      rw [HandshakeNet.Finished, here.client, here.server]
      exact ⟨.inr rfl, .inr rfl⟩
  | failed clientError serverError differs =>
      refine .ended (HandshakeNet.clientTurn_over S setting (by rw [here.client]; rfl))
        (HandshakeNet.serverTurn_over S setting (by rw [here.server]; rfl)) ?_
      rw [HandshakeNet.Finished, here.client, here.server]
      exact ⟨.inl rfl, .inl rfl⟩

theorem HandshakeNet.Staged.step (staged : s.Staged S setting)
    {event : HandshakeNetEvent} {next : HandshakeNet κ}
    (stepped : handshakeNetStep P S setting s event = some next) :
    next.Staged S setting ∧ next.potential < s.potential := by
  have moves := staged.moves
  cases event with
  | deliverToServer size =>
      obtain ⟨toServer, delivered, same⟩ := Option.bind_eq_some_iff.mp stepped
      cases same
      obtain ⟨stream, closed, less⟩ := Pipe.deliver_eq_some delivered
      refine ⟨?_, ?_⟩
      · rw [HandshakeNet.Staged, stream, closed]
        exact staged
      · simp only [HandshakeNet.potential]
        omega
  | deliverToClient size =>
      obtain ⟨toClient, delivered, same⟩ := Option.bind_eq_some_iff.mp stepped
      cases same
      obtain ⟨stream, closed, less⟩ := Pipe.deliver_eq_some delivered
      refine ⟨?_, ?_⟩
      · rw [HandshakeNet.Staged, stream, closed]
        exact staged
      · simp only [HandshakeNet.potential]
        omega
  | client cuts =>
      change s.clientTurn P S setting cuts = some next at stepped
      cases moves with
      | client waits after takes stays less =>
          rw [takes] at stepped
          split at stepped
          next arrived =>
            cases stepped
            exact ⟨stays arrived cuts, less cuts⟩
          next => cases stepped
      | server waits after takes stays less => cases (waits cuts).symm.trans stepped
      | ended clientWaits serverWaits finished =>
          cases (clientWaits cuts).symm.trans stepped
  | server cuts =>
      change s.serverTurn P S setting cuts = some next at stepped
      cases moves with
      | server waits after takes stays less =>
          rw [takes] at stepped
          split at stepped
          next arrived =>
            cases stepped
            exact ⟨stays arrived cuts, less cuts⟩
          next => cases stepped
      | client waits after takes stays less => cases (waits cuts).symm.trans stepped
      | ended clientWaits serverWaits finished =>
          cases (serverWaits cuts).symm.trans stepped

/-- Until both are done, bytes can be delivered or the side whose turn it is goes on. -/
theorem HandshakeNet.Staged.progress (staged : s.Staged S setting) :
    s.Finished ∨ ∃ event next, handshakeNetStep P S setting s event = some next := by
  have delivers {pipe : Pipe} (travels : pipe.inflight ≠ []) :
      ∃ next, pipe.deliver 0 = some next := ⟨_, if_neg travels⟩
  cases staged.moves with
  | client waits after takes stays less =>
      right
      by_cases arrived : s.toClient.inflight = []
      · exact ⟨.client [], after [], (takes []).trans (if_pos arrived)⟩
      · obtain ⟨toClient, delivered⟩ := delivers arrived
        exact ⟨.deliverToClient 0, _, Option.bind_eq_some_iff.mpr ⟨_, delivered, rfl⟩⟩
  | server waits after takes stays less =>
      right
      by_cases arrived : s.toServer.inflight = []
      · exact ⟨.server [], after [], (takes []).trans (if_pos arrived)⟩
      · obtain ⟨toServer, delivered⟩ := delivers arrived
        exact ⟨.deliverToServer 0, _, Option.bind_eq_some_iff.mpr ⟨_, delivered, rfl⟩⟩
  | ended clientWaits serverWaits finished => exact .inl finished

theorem HandshakeNet.staged_of_run {events : List HandshakeNetEvent}
    (reached : run (handshakeNetStep P S setting) .start events = some s) :
    s.Staged S setting ∧ events.length + s.potential ≤ 5 * turnBound := by
  refine @run_history _ _ (handshakeNetStep P S setting) (fun past s =>
    s.Staged S setting ∧ past.length + s.potential ≤ 5 * turnBound) .start ?_ ?_ _ _
    reached
  · refine ⟨.idle, ?_⟩
    change 0 + ((3 + 2) * turnBound + (0 + 0)) ≤ _
    omega
  · intro past state event next _ holds stepped
    obtain ⟨staged, less⟩ := holds.1.step stepped
    refine ⟨staged, ?_⟩
    rw [List.length_append, List.length_singleton]
    omega

/-! The outcome. -/

def HandshakeNet.BothReturn (s : HandshakeNet κ) : Prop :=
  ∃ keys, s.client.point.keys = some keys ∧ s.server.point.keys = some keys

def HandshakeNet.BothRaise (s : HandshakeNet κ) : Prop :=
  s.client.point.Raised = true ∧ s.server.point.Raised = true

theorem Stage.outcome
    (stage : Stage S setting client server toServer toClient clientClosed serverClosed)
    (finished : (client.Raised ∨ client.keys.isSome) ∧
      (server.Raised ∨ server.keys.isSome)) :
    (setting.Agrees ∧ ∃ keys, client.keys = some keys ∧ server.keys = some keys) ∨
      ¬ setting.Agrees ∧ client.Raised = true ∧ server.Raised = true := by
  obtain ⟨clientDone, serverDone⟩ := finished
  cases stage with
  | idle | greeted | late | answered | responded | refused | done =>
      rcases clientDone with raised | returned
      · cases raised
      · cases returned
  | deserted =>
      rcases serverDone with raised | returned
      · cases raised
      · cases returned
  | agreed nonceC nonceS keys agrees => exact .inl ⟨agrees, keys, rfl, rfl⟩
  | failed clientError serverError differs => exact .inr ⟨differs, rfl, rfl⟩

theorem Stage.keys_eq_none
    (stage : Stage S setting client server toServer toClient clientClosed serverClosed)
    (differs : ¬ setting.Agrees) : client.keys = none ∧ server.keys = none := by
  cases stage with
  | done nonceC nonceS sessionId sessionKey seed bytes short size built agrees =>
      exact absurd agrees differs
  | agreed nonceC nonceS keys agrees => exact absurd agrees differs
  | idle | greeted | late | answered | deserted | responded | refused | failed =>
      exact ⟨rfl, rfl⟩

/-- Both sides return, with the same keys, exactly when they are configured for each
other and their clocks are near; otherwise both raise and neither has keys. -/
theorem handshake_both_or_neither {events : List HandshakeNetEvent}
    (reached : run (handshakeNetStep P S setting) .start events = some s) :
    events.length ≤ 5 * turnBound ∧
      (s.Finished ∨
        ∃ event next, handshakeNetStep P S setting s event = some next) ∧
      (s.Finished →
        setting.Agrees ∧ s.BothReturn ∨ ¬ setting.Agrees ∧ s.BothRaise) ∧
      (¬ setting.Agrees →
        s.client.point.keys = none ∧ s.server.point.keys = none) := by
  obtain ⟨staged, bound⟩ := HandshakeNet.staged_of_run reached
  exact ⟨by omega, staged.progress, Stage.outcome staged, Stage.keys_eq_none staged⟩

end

/-! A handshake of two sides that fit, over frames that arrive in pieces. -/

/-- A signature names its key and the start of the data, a ciphertext its key and the
plaintext. -/
def sampleSuite : IdealSuite .transparent UInt8 where
  byte := id
  urandom draw size := List.replicate size (UInt8.ofNat draw)
  hmac := Primitives.transparent.hmac
  hkdf length secret salt _ := (secret ++ salt ++ List.replicate length 0).take length
  sign privateKey data _ := privateKey :: data.take 4
  verify publicKey data signature := signature == publicKey :: data.take 4
  encrypt publicKey plaintext _ := publicKey :: plaintext.take aesKeySize
  decrypt privateKey ciphertext :=
    if ciphertext.head? = some privateKey then some ciphertext.tail else none
  byte_apply _ := rfl
  hmac_apply _ _ := rfl
  urandom_length _ _ := List.length_replicate
  sign_length key data _ := by
    have short := List.length_take_le 4 data
    rw [List.length_cons]
    exact (Nat.succ_le_succ short).trans (by decide)
  verify_sign publicKey privateKey data _ := by
    by_cases same : publicKey = privateKey
    · simp [same]
    · simp [same, Ne.symm same]
  encrypt_length key plaintext _ := by
    have short := List.length_take_le aesKeySize plaintext
    rw [List.length_cons]
    exact (Nat.succ_le_succ short).trans (by decide)
  decrypt_encrypt key plaintext _ size := by
    simp [← size]

/-- The readings lie four minutes apart. -/
def sampleSetting : HandshakeSetting UInt8 where
  clientPrivateKey := 1
  serverPublicKey := 2
  serverPrivateKey := 2
  clientPublicKey := 1
  tsC := ⟨1700000000, by decide +kernel, by decide +kernel⟩
  serverClock := ⟨1700000240, by decide +kernel, by decide +kernel⟩
  tsS := ⟨6800000961 / 4, by decide +kernel, by decide +kernel⟩
  clientClock := ⟨1700000001, by decide +kernel, by decide +kernel⟩

def sampleHandshakeEvents : List HandshakeNetEvent :=
  [.client [], .deliverToServer 20, .deliverToServer 500, .server [2, 0, 60],
    .deliverToClient 1000, .client [0, 0, 0, 0, 7], .deliverToServer 1000,
    .server [], .deliverToClient 90, .deliverToClient 1000, .client [1]]

theorem handshake_both_or_neither_sample :
    ∃ s, run (handshakeNetStep .transparent sampleSuite sampleSetting) .start
        sampleHandshakeEvents = some s ∧
      s.Finished ∧ sampleSetting.Agrees ∧ s.BothReturn := by
  have ends : (run (handshakeNetStep .transparent sampleSuite sampleSetting) .start
      sampleHandshakeEvents).any (fun s =>
        s.client.point.keys.isSome && s.server.point.keys.isSome) = true := by
    decide +kernel
  obtain ⟨s, reached, held⟩ := (Option.any_eq_true _ _).mp ends
  obtain ⟨client, server⟩ := (Bool.and_eq_true_iff).mp held
  obtain ⟨-, -, outcome, none_⟩ := handshake_both_or_neither reached
  have finished : s.Finished := ⟨.inr client, .inr server⟩
  refine ⟨s, reached, finished, ?_⟩
  rcases outcome finished with both | ⟨differs, -⟩
  · exact both
  · rw [(none_ differs).1] at client
    cases client

end VpnTunnel.Auth
