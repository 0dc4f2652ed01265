import VpnTunnel.Crypto.Protocol
import VpnTunnel.Foundation.PyFloat
import VpnTunnel.Foundation.Text
import Mathlib.Algebra.Order.Ring.Rat
import Mathlib.Algebra.Order.Group.Unbundled.Abs

namespace VpnTunnel.Auth

open VpnTunnel.Crypto
open VpnTunnel.Foundation

def maxTimestampDrift : ℚ := 300
def challengeHmacKey : List UInt8 := encodeUtf8 "challenge"
def hmacKeySize : ℕ := 32
def nonceSize : ℕ := 16

/-- `padding.PSS.MAX_LENGTH` under a key of 2048 bits. -/
def pssSaltSize : ℕ := 222
def oaepSeedSize : ℕ := 32

/-- The library calls of the handshake, over bytes of any type `β`.  A `κ` names
an RSA key pair, of which a party holds one half. -/
structure Suite (β κ : Type) where
  byte : UInt8 → β
  /-- The bytes of the `draw`-th call of `os.urandom`. -/
  urandom : (draw size : ℕ) → List β
  hmac : (key message : List β) → List β
  hkdf : (length : ℕ) → (secret salt info : List β) → List β
  sign : (privateKey : κ) → (data salt : List β) → List β
  verify : (publicKey : κ) → (data signature : List β) → Bool
  encrypt : (publicKey : κ) → (plaintext seed : List β) → List β
  decrypt : (privateKey : κ) → (ciphertext : List β) → Option (List β)

/-! What `json.loads` makes of a payload.  Only the fields of the outer object
are looked at, so the contents of inner lists and objects are left out. -/

inductive PyNumber
  | int (value : ℤ)
  | float (value : ℚ)
  | nan
  | infinity
  deriving DecidableEq, Repr

inductive JsonValue (β : Type)
  | null
  | bool (value : Bool)
  | number (value : PyNumber)
  | str (text : String)
  /-- A string of the hexadecimal digits of these bytes. -/
  | hex (bytes : List β)
  | array
  | object
  deriving DecidableEq, Repr

inductive Json (β : Type)
  | dict (fields : List (String × JsonValue β))
  | other
  deriving DecidableEq, Repr

inductive Payload (β : Type)
  | json (value : Json β)
  /-- Text that `json.loads` rejects. -/
  | text (text : String)
  /-- Bytes that are not UTF-8. -/
  | binary
  deriving DecidableEq, Repr

/-- A handshake frame; neither side looks at its session id. -/
structure Frame (β : Type) where
  msgType : MessageType
  payload : Payload β
  deriving DecidableEq, Repr

inductive HandshakeError (β : Type)
  | py (error : PyError)
  /-- The `ValueError` of `decode` or `json.loads`. -/
  | undecodable (payload : Payload β)
  /-- The `ValueError` of `bytes.fromhex`. -/
  | notHex (text : String)
  /-- The `ValueError` of `decrypt`. -/
  | decryption
  /-- `ValueError(f"Server rejected handshake: \x7bsd_payload.decode()\x7d")` -/
  | serverRejected (payload : Payload β)
  deriving DecidableEq, Repr

/-- The triple that either side returns. -/
structure HandshakeKeys (β : Type) where
  sessionId : List β
  encKey : List β
  macKey : List β
  deriving DecidableEq, Repr

section

variable {β κ : Type}

def Payload.decodeHs : Payload β → Except (HandshakeError β) (Json β)
  | .json value => .ok value
  | payload => .error (.undecodable payload)

/-- `sd_payload.decode()` before the client raises. -/
def Payload.rejection : Payload β → HandshakeError β
  | .binary => .undecodable .binary
  | payload => .serverRejected payload

def Json.get (json : Json β) (key : String) :
    Except (HandshakeError β) (JsonValue β) :=
  match json with
  | .dict fields =>
      match fields.lookup key with
      | some value => .ok value
      | none => .error (.py (.keyError key))
  | .other => .error (.py .typeError)

def fromHex (suite : Suite β κ) :
    JsonValue β → Except (HandshakeError β) (List β)
  | .hex bytes => .ok bytes
  | .str text =>
      match fromHexChars text.toList with
      | some bytes => .ok (bytes.map suite.byte)
      | none => .error (.notHex text)
  | _ => .error (.py .typeError)

def Json.getHex (suite : Suite β κ) (json : Json β) (key : String) :
    Except (HandshakeError β) (List β) := do
  fromHex suite (← json.get key)

/-- `abs(time.time() - ts)`; a difference too large for a float is far off either
way. -/
def drift (clock ts : ℚ) : ℚ := |toDouble (clock - ts)|

/-- `abs(time.time() - ts) > MAX_TIMESTAMP_DRIFT` -/
def outsideWindow (clock : ℚ) :
    JsonValue β → Except (HandshakeError β) Bool
  | .number (.float value) => .ok (decide (maxTimestampDrift < drift clock value))
  | .number (.int value) =>
      -- The subtraction first makes a float of the integer.
      if doubleLimit ≤ |(value : ℚ)| then .error (.py .overflowError)
      else .ok (decide (maxTimestampDrift < drift clock (toDouble value)))
  | .bool value =>
      .ok (decide (maxTimestampDrift < drift clock (if value then 1 else 0)))
  -- A comparison with NaN is false.
  | .number .nan => .ok false
  | .number .infinity => .ok true
  | _ => .error (.py .typeError)

namespace Suite

def computeHmac (suite : Suite β κ) (data key : List β) : List β :=
  suite.hmac key data

def verifyHmac [DecidableEq β] (suite : Suite β κ) (data mac key : List β) :
    Bool :=
  decide (suite.computeHmac data key = mac)

def challengeKey (suite : Suite β κ) : List β :=
  challengeHmacKey.map suite.byte

def deriveKeys (suite : Suite β κ) (masterSecret salt : List β) :
    List β × List β :=
  let derived := suite.hkdf (aesKeySize + hmacKeySize) masterSecret salt
    ((encodeUtf8 "vpn-tunnel-keys").map suite.byte)
  (derived.take aesKeySize, derived.drop aesKeySize)

end Suite

/-! The calls with an effect.  They are logged, and `os.urandom` counts them. -/

inductive Action (β κ : Type)
  | received (frame : Frame β)
  | drew (draw : ℕ)
  | signed (privateKey : κ) (data : List β)
  | sent (frame : Frame β)
  deriving DecidableEq, Repr

structure HandshakeIo (β κ : Type) where
  draws : ℕ
  log : List (Action β κ)

abbrev HandshakeM (β κ : Type) :=
  EStateM (HandshakeError β) (HandshakeIo β κ)

def urandom (suite : Suite β κ) (size : ℕ) : HandshakeM β κ (List β) :=
  fun io =>
    .ok (suite.urandom io.draws size)
      { draws := io.draws + 1, log := io.log ++ [.drew io.draws] }

def record (action : Action β κ) : HandshakeM β κ Unit := fun io =>
  .ok () { io with log := io.log ++ [action] }

def sendFrame (msgType : MessageType) (payload : Payload β)
    (fault : Option PyError) : HandshakeM β κ Unit := do
  record (.sent { msgType, payload })
  match fault with
  | none => return ()
  | some error => throw (.py error)

def recvFrame (received : Except PyError (Frame β)) :
    HandshakeM β κ (Frame β) :=
  match received with
  | .ok frame => do
      record (.received frame)
      return frame
  | .error error => throw (.py error)

/-- Best effort: what `send_frame` raises here is swallowed. -/
def sendError (message : String) : HandshakeM β κ Unit :=
  sendFrame .error (.text message) none

def generateSessionKey (suite : Suite β κ) : HandshakeM β κ (List β) :=
  urandom suite aesKeySize

def signData (suite : Suite β κ) (data : List β) (privateKey : κ) :
    HandshakeM β κ (List β) := do
  let salt ← urandom suite pssSaltSize
  record (.signed privateKey data)
  return suite.sign privateKey data salt

def encryptKey (suite : Suite β κ) (publicKey : κ) (sessionKey : List β) :
    HandshakeM β κ (List β) := do
  let seed ← urandom suite oaepSeedSize
  return suite.encrypt publicKey sessionKey seed

/-! What each of them returns and leaves behind. -/

section

variable {α γ : Type} (suite : Suite β κ) (io : HandshakeIo β κ)

@[simp] theorem handshakeM_bind (block : HandshakeM β κ α)
    (next : α → HandshakeM β κ γ) :
    (block >>= next) io =
      match block io with
      | .ok result io => next result io
      | .error error io => .error error io := by
  simp only [bind, EStateM.bind]
  cases block io <;> rfl

@[simp] theorem handshakeM_map (f : α → γ) (block : HandshakeM β κ α) :
    (f <$> block) io =
      match block io with
      | .ok result io => .ok (f result) io
      | .error error io => .error error io := by
  simp only [Functor.map, EStateM.map]
  cases block io <;> rfl

@[simp] theorem handshakeM_pure (result : α) :
    (pure result : HandshakeM β κ α) io = .ok result io := rfl

@[simp] theorem handshakeM_throw (error : HandshakeError β) :
    (throw error : HandshakeM β κ α) io = .error error io := rfl

@[simp] theorem handshakeM_ofExcept_ok (value : α) :
    (MonadExcept.ofExcept (.ok value : Except (HandshakeError β) α) :
      HandshakeM β κ α) io = .ok value io := rfl

@[simp] theorem handshakeM_ofExcept_error (error : HandshakeError β) :
    (MonadExcept.ofExcept (.error error : Except (HandshakeError β) α) :
      HandshakeM β κ α) io = .error error io := rfl

@[simp] theorem urandom_apply (size : ℕ) :
    urandom suite size io =
      .ok (suite.urandom io.draws size)
        { draws := io.draws + 1, log := io.log ++ [.drew io.draws] } := rfl

@[simp] theorem generateSessionKey_apply :
    generateSessionKey suite io =
      .ok (suite.urandom io.draws aesKeySize)
        { draws := io.draws + 1, log := io.log ++ [.drew io.draws] } := rfl

@[simp] theorem signData_apply (data : List β) (privateKey : κ) :
    signData suite data privateKey io =
      .ok (suite.sign privateKey data (suite.urandom io.draws pssSaltSize))
        { draws := io.draws + 1
          log := io.log ++ [.drew io.draws, .signed privateKey data] } := by
  simp [signData, record]

@[simp] theorem encryptKey_apply (publicKey : κ) (sessionKey : List β) :
    encryptKey suite publicKey sessionKey io =
      .ok (suite.encrypt publicKey sessionKey
          (suite.urandom io.draws oaepSeedSize))
        { draws := io.draws + 1, log := io.log ++ [.drew io.draws] } := rfl

@[simp] theorem sendFrame_none (msgType : MessageType) (payload : Payload β) :
    (sendFrame msgType payload none : HandshakeM β κ Unit) io =
      .ok () { io with log := io.log ++ [.sent { msgType, payload }] } := rfl

@[simp] theorem sendFrame_some (msgType : MessageType) (payload : Payload β)
    (error : PyError) :
    (sendFrame msgType payload (some error) : HandshakeM β κ Unit) io =
      .error (.py error)
        { io with log := io.log ++ [.sent { msgType, payload }] } := rfl

@[simp] theorem sendError_apply (message : String) :
    (sendError message : HandshakeM β κ Unit) io =
      .ok ()
        { io with
          log := io.log ++
            [.sent { msgType := .error, payload := .text message }] } := rfl

@[simp] theorem recvFrame_ok (frame : Frame β) :
    (recvFrame (.ok frame) : HandshakeM β κ (Frame β)) io =
      .ok frame { io with log := io.log ++ [.received frame] } := rfl

@[simp] theorem recvFrame_error (error : PyError) :
    (recvFrame (.error error) : HandshakeM β κ (Frame β)) io =
      .error (.py error) io := rfl

end

/-! The payloads of the four messages. -/

def clientHelloPayload (nonceC : List β) (tsC : ℚ) : Payload β :=
  .json (.dict [("nonce_c", .hex nonceC), ("timestamp", .number (.float tsC))])

def serverHelloPayload (nonceS : List β) (tsS : ℚ)
    (challengeS sigS : List β) : Payload β :=
  .json (.dict [("nonce_s", .hex nonceS), ("timestamp", .number (.float tsS)),
    ("challenge", .hex challengeS), ("signature", .hex sigS)])

def clientResponsePayload (challengeResponse sigC : List β) : Payload β :=
  .json (.dict [("challenge_response", .hex challengeResponse),
    ("signature", .hex sigC)])

def serverDonePayload (sessionId encryptedSessionKey : List β) : Payload β :=
  .json (.dict [("session_id", .hex sessionId),
    ("encrypted_session_key", .hex encryptedSessionKey)])

/-! `client_handshake`, cut where it waits for a frame. -/

def clientHello (suite : Suite β κ) (clock : ℚ) (fault : Option PyError) :
    HandshakeM β κ (List β) := do
  let nonceC ← urandom suite nonceSize
  sendFrame .handshakeClientHello (clientHelloPayload nonceC clock) fault
  return nonceC

/-- The client's checks of a ServerHello, up to its `nonce_s`. -/
def readServerHello [DecidableEq β] (suite : Suite β κ) (serverPublicKey : κ)
    (nonceC : List β) (clock : ℚ) (frame : Frame β) :
    Except (HandshakeError β) (List β) := do
  if frame.msgType ≠ .handshakeServerHello then
    throw (.py (.valueError s!"Expected ServerHello, got {frame.msgType.name}"))
  let sh ← frame.payload.decodeHs
  let nonceS ← sh.getHex suite "nonce_s"
  let tsS ← sh.get "timestamp"
  let challengeS ← sh.getHex suite "challenge"
  let sigS ← sh.getHex suite "signature"
  if ← outsideWindow clock tsS then
    throw (.py (.valueError "ServerHello timestamp outside acceptable window"))
  if ¬ suite.verify serverPublicKey (nonceC ++ nonceS) sigS then
    throw (.py (.valueError "Server signature verification FAILED — aborting"))
  if ¬ suite.verifyHmac (nonceC ++ nonceS) challengeS suite.challengeKey then
    throw (.py (.valueError "Server challenge HMAC mismatch"))
  return nonceS

def clientResponse [DecidableEq β] (suite : Suite β κ)
    (clientPrivateKey serverPublicKey : κ) (nonceC : List β)
    (received : Except PyError (Frame β)) (clock : ℚ)
    (fault : Option PyError) : HandshakeM β κ (List β) := do
  let frame ← recvFrame received
  let nonceS ← MonadExcept.ofExcept
    (readServerHello suite serverPublicKey nonceC clock frame)
  let challengeResponse := suite.computeHmac (nonceS ++ nonceC) suite.challengeKey
  let sigC ← signData suite (nonceS ++ nonceC) clientPrivateKey
  sendFrame .handshakeClientResponse
    (clientResponsePayload challengeResponse sigC) fault
  return nonceS

/-- The client's reading of a ServerDone: the session id and the session key. -/
def readServerDone (suite : Suite β κ) (clientPrivateKey : κ)
    (frame : Frame β) : Except (HandshakeError β) (List β × List β) := do
  if frame.msgType ≠ .handshakeServerDone then
    if frame.msgType = .error then
      throw frame.payload.rejection
    throw (.py (.valueError s!"Expected ServerDone, got {frame.msgType.name}"))
  let sd ← frame.payload.decodeHs
  let sessionId ← sd.getHex suite "session_id"
  let encryptedSessionKey ← sd.getHex suite "encrypted_session_key"
  match suite.decrypt clientPrivateKey encryptedSessionKey with
  | some sessionKey => return (sessionId, sessionKey)
  | none => throw .decryption

def handshakeKeys (suite : Suite β κ) (sessionId sessionKey : List β) :
    HandshakeKeys β :=
  let (encKey, macKey) := suite.deriveKeys sessionKey sessionId
  { sessionId, encKey, macKey }

def clientFinish (suite : Suite β κ) (clientPrivateKey : κ)
    (received : Except PyError (Frame β)) :
    HandshakeM β κ (HandshakeKeys β) := do
  let frame ← recvFrame received
  let (sessionId, sessionKey) ← MonadExcept.ofExcept
    (readServerDone suite clientPrivateKey frame)
  return handshakeKeys suite sessionId sessionKey

/-! `server_handshake`, cut in the same way. -/

def readClientHello (suite : Suite β κ) (frame : Frame β) :
    Except (HandshakeError β) (List β × JsonValue β) := do
  if frame.msgType ≠ .handshakeClientHello then
    throw (.py (.valueError s!"Expected ClientHello, got {frame.msgType.name}"))
  let ch ← frame.payload.decodeHs
  let nonceC ← ch.getHex suite "nonce_c"
  let tsC ← ch.get "timestamp"
  return (nonceC, tsC)

/-- Up to the ServerHello, with `clock` and `tsS` the two readings of the clock;
what stays are `nonce_c` and `nonce_s`. -/
def serverHello (suite : Suite β κ) (serverPrivateKey : κ)
    (received : Except PyError (Frame β)) (clock tsS : ℚ)
    (fault : Option PyError) : HandshakeM β κ (List β × List β) := do
  let frame ← recvFrame received
  let (nonceC, tsC) ← MonadExcept.ofExcept (readClientHello suite frame)
  let outside ← MonadExcept.ofExcept (outsideWindow clock tsC)
  if outside then
    sendError "ClientHello timestamp outside acceptable window"
    throw (.py (.valueError "ClientHello timestamp rejected"))
  let nonceS ← urandom suite nonceSize
  let challengeS := suite.computeHmac (nonceC ++ nonceS) suite.challengeKey
  let sigS ← signData suite (nonceC ++ nonceS) serverPrivateKey
  sendFrame .handshakeServerHello
    (serverHelloPayload nonceS tsS challengeS sigS) fault
  return (nonceC, nonceS)

def readClientResponse (suite : Suite β κ) (frame : Frame β) :
    Except (HandshakeError β) (List β × List β) := do
  if frame.msgType ≠ .handshakeClientResponse then
    throw (.py (.valueError
      s!"Expected ClientResponse, got {frame.msgType.name}"))
  let cr ← frame.payload.decodeHs
  let challengeResponse ← cr.getHex suite "challenge_response"
  let sigC ← cr.getHex suite "signature"
  return (challengeResponse, sigC)

def serverDone [DecidableEq β] (suite : Suite β κ) (clientPublicKey : κ)
    (nonceC nonceS : List β) (received : Except PyError (Frame β))
    (fault : Option PyError) : HandshakeM β κ (HandshakeKeys β) := do
  let frame ← recvFrame received
  let (challengeResponse, sigC) ← MonadExcept.ofExcept
    (readClientResponse suite frame)
  if ¬ suite.verifyHmac (nonceS ++ nonceC) challengeResponse
      suite.challengeKey then
    sendError "Challenge response HMAC mismatch"
    throw (.py (.valueError "Client challenge response mismatch"))
  if ¬ suite.verify clientPublicKey (nonceS ++ nonceC) sigC then
    sendError "Client signature verification failed"
    throw (.py (.valueError "Client signature verification FAILED"))
  let sessionId ← urandom suite sessionIdSize
  let sessionKey ← generateSessionKey suite
  let encryptedSessionKey ← encryptKey suite clientPublicKey sessionKey
  sendFrame .handshakeServerDone
    (serverDonePayload sessionId encryptedSessionKey) fault
  return handshakeKeys suite sessionId sessionKey

/-! What the checks have seen when they pass. -/

section

variable {α γ ε : Type}

theorem except_bind_eq_ok {first : Except ε α} {next : α → Except ε γ}
    {result : γ} :
    (first >>= next) = .ok result ↔
      ∃ value, first = .ok value ∧ next value = .ok result := by
  simp only [bind, Except.bind]
  cases first <;> simp

theorem except_check_eq_ok {rejects : Prop} [Decidable rejects] {error : ε}
    {abandoned : γ → Except ε α} {rest : Except ε α} {result : α} :
    (if rejects then throw error >>= abandoned else rest) = .ok result ↔
      ¬ rejects ∧ rest = .ok result := by
  split
  · simp [*, throw, throwThe, MonadExceptOf.throw, bind, Except.bind]
  · simp [*]

theorem Payload.decodeHs_eq_ok {payload : Payload β} {json : Json β} :
    payload.decodeHs = .ok json ↔ payload = .json json := by
  cases payload <;> simp [decodeHs]

theorem readServerHello_eq_ok [DecidableEq β] {suite : Suite β κ}
    {serverPublicKey : κ} {nonceC nonceS : List β} {clock : ℚ}
    {frame : Frame β} :
    readServerHello suite serverPublicKey nonceC clock frame = .ok nonceS ↔
      frame.msgType = .handshakeServerHello ∧
      ∃ sh tsS challengeS sigS, frame.payload = .json sh ∧
        sh.getHex suite "nonce_s" = .ok nonceS ∧
        sh.get "timestamp" = .ok tsS ∧
        sh.getHex suite "challenge" = .ok challengeS ∧
        sh.getHex suite "signature" = .ok sigS ∧
        outsideWindow clock tsS = .ok false ∧
        suite.verify serverPublicKey (nonceC ++ nonceS) sigS = true ∧
        suite.verifyHmac (nonceC ++ nonceS) challengeS suite.challengeKey =
          true := by
  simp only [readServerHello, except_check_eq_ok, except_bind_eq_ok,
    Payload.decodeHs_eq_ok, ne_eq, not_not]
  constructor
  · rintro ⟨isHello, sh, decoded, nonce, nonceRead, tsS, tsRead, challengeS,
      challengeRead, sigS, sigRead, outside, window, inside, verified, matched,
      same⟩
    cases same
    rw [Bool.not_eq_true] at inside
    subst inside
    exact ⟨isHello, sh, tsS, challengeS, sigS, decoded, nonceRead, tsRead,
      challengeRead, sigRead, window, verified, matched⟩
  · rintro ⟨isHello, sh, tsS, challengeS, sigS, decoded, nonceRead, tsRead,
      challengeRead, sigRead, window, verified, matched⟩
    exact ⟨isHello, sh, decoded, nonceS, nonceRead, tsS, tsRead, challengeS,
      challengeRead, sigS, sigRead, false, window, nofun, verified, matched,
      rfl⟩

theorem readClientHello_eq_ok {suite : Suite β κ} {frame : Frame β}
    {nonceC : List β} {tsC : JsonValue β} :
    readClientHello suite frame = .ok (nonceC, tsC) ↔
      frame.msgType = .handshakeClientHello ∧
      ∃ ch, frame.payload = .json ch ∧ ch.getHex suite "nonce_c" = .ok nonceC ∧
        ch.get "timestamp" = .ok tsC := by
  simp only [readClientHello, except_check_eq_ok, except_bind_eq_ok,
    Payload.decodeHs_eq_ok, ne_eq, not_not]
  constructor
  · rintro ⟨isHello, ch, decoded, nonce, nonceRead, ts, tsRead, same⟩
    cases same
    exact ⟨isHello, ch, decoded, nonceRead, tsRead⟩
  · rintro ⟨isHello, ch, decoded, nonceRead, tsRead⟩
    exact ⟨isHello, ch, decoded, nonceC, nonceRead, tsC, tsRead, rfl⟩

theorem readClientResponse_eq_ok {suite : Suite β κ} {frame : Frame β}
    {challengeResponse sigC : List β} :
    readClientResponse suite frame = .ok (challengeResponse, sigC) ↔
      frame.msgType = .handshakeClientResponse ∧
      ∃ cr, frame.payload = .json cr ∧
        cr.getHex suite "challenge_response" = .ok challengeResponse ∧
        cr.getHex suite "signature" = .ok sigC := by
  simp only [readClientResponse, except_check_eq_ok, except_bind_eq_ok,
    Payload.decodeHs_eq_ok, ne_eq, not_not]
  constructor
  · rintro ⟨isResponse, cr, decoded, challenge, challengeRead, sig, sigRead, same⟩
    cases same
    exact ⟨isResponse, cr, decoded, challengeRead, sigRead⟩
  · rintro ⟨isResponse, cr, decoded, challengeRead, sigRead⟩
    exact ⟨isResponse, cr, decoded, _, challengeRead, _, sigRead, rfl⟩

theorem readServerDone_eq_ok {suite : Suite β κ} {clientPrivateKey : κ}
    {frame : Frame β} {sessionId sessionKey : List β} :
    readServerDone suite clientPrivateKey frame = .ok (sessionId, sessionKey) ↔
      frame.msgType = .handshakeServerDone ∧
      ∃ sd encryptedSessionKey, frame.payload = .json sd ∧
        sd.getHex suite "session_id" = .ok sessionId ∧
        sd.getHex suite "encrypted_session_key" = .ok encryptedSessionKey ∧
        suite.decrypt clientPrivateKey encryptedSessionKey = some sessionKey := by
  unfold readServerDone
  by_cases isDone : frame.msgType = .handshakeServerDone
  · simp only [isDone, ne_eq, not_true_eq_false, if_false, except_bind_eq_ok,
      Payload.decodeHs_eq_ok, true_and]
    constructor
    · rintro ⟨sd, decoded, sid, sidRead, encrypted, encryptedRead, opened⟩
      split at opened
      · rename_i key decrypted
        cases opened
        exact ⟨sd, encrypted, decoded, sidRead, encryptedRead, decrypted⟩
      · cases opened
    · rintro ⟨sd, encrypted, decoded, sidRead, encryptedRead, decrypted⟩
      refine ⟨sd, decoded, sessionId, sidRead, encrypted, encryptedRead, ?_⟩
      rw [decrypted]
      rfl
  · simp only [isDone, ne_eq, not_false_eq_true, if_true, false_and, iff_false]
    split
    · nofun
    · nofun

end

end

end VpnTunnel.Auth
