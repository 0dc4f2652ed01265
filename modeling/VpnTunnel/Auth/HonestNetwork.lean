import VpnTunnel.Auth.PayloadBytes
import VpnTunnel.Auth.Runs
import VpnTunnel.Crypto.Pipe
import VpnTunnel.Foundation.Machine

namespace VpnTunnel.Auth

open VpnTunnel.Crypto
open VpnTunnel.Foundation

/-! A run of `client_handshake` and one of `server_handshake`, at the two ends of a
connection that delivers every byte. -/

/-- The size of a signature or a ciphertext under an RSA key of 16384 bits. -/
abbrev rsaLimit : ℕ := 2048

/-- Signatures and OAEP as one wants them, over real bytes. -/
structure IdealSuite (P : Primitives) (κ : Type) [DecidableEq κ] extends
    Suite UInt8 κ where
  byte_apply : ∀ value, byte value = value
  hmac_apply : ∀ key message, hmac key message = P.hmac key message
  urandom_length : ∀ draw size, (urandom draw size).length = size
  sign_length : ∀ key data salt, (sign key data salt).length ≤ rsaLimit
  verify_sign : ∀ publicKey privateKey data salt,
    verify publicKey data (sign privateKey data salt) =
      decide (publicKey = privateKey)
  encrypt_length : ∀ key plaintext seed,
    (encrypt key plaintext seed).length ≤ rsaLimit
  decrypt_encrypt : ∀ key plaintext seed, plaintext.length = aesKeySize →
    decrypt key (encrypt key plaintext seed) = some plaintext

abbrev Reading := { clock : ℚ // IsDouble clock }

/-- The arguments of the two calls, and what `time.time()` returns in each. -/
structure HandshakeSetting (κ : Type) where
  clientPrivateKey : κ
  serverPublicKey : κ
  serverPrivateKey : κ
  clientPublicKey : κ
  tsC : Reading
  serverClock : Reading
  tsS : Reading
  clientClock : Reading

structure HandshakeNet (κ : Type) where
  draws : ℕ
  client : ClientRun UInt8 κ
  server : ServerRun UInt8 κ
  toServer : Pipe
  toClient : Pipe

inductive HandshakeNetEvent
  | deliverToServer (size : ℕ)
  | deliverToClient (size : ℕ)
  | client (cuts : List ℕ)
  | server (cuts : List ℕ)

def ClientPoint.Raised {β : Type} : ClientPoint β → Bool
  | .raised _ => true
  | _ => false

def ServerPoint.Raised {β : Type} : ServerPoint β → Bool
  | .raised _ => true
  | _ => false

def ClientPoint.keys {β : Type} : ClientPoint β → Option (HandshakeKeys β)
  | .returned _ _ keys => some keys
  | _ => none

def ServerPoint.keys {β : Type} : ServerPoint β → Option (HandshakeKeys β)
  | .returned _ _ keys => some keys
  | _ => none

section

variable {κ π : Type} (P : Primitives)

def sentFrames (log : List (Action UInt8 κ)) : List (Frame UInt8) :=
  log.filterMap fun
    | .sent frame => some frame
    | _ => none

/-- A block with its `send_frame`, which raises when a frame does not fit. -/
def sendOver (run : Run π UInt8 κ)
    (block : Option PyError → Option (ℕ × Run π UInt8 κ)) :
    Option (ℕ × Run π UInt8 κ × Bytes) := do
  let (draws, moved) ← block none
  match (sentFrames (moved.log.drop run.log.length)).mapM (handshakeFrame P) with
  | .ok frames => return (draws, moved, frames.flatten)
  | .error error =>
      let (draws, moved) ← block (some error)
      return (draws, moved, [])

def recvHandshake (pipe : Pipe) (cuts : List ℕ) :
    Option (Except PyError (Frame UInt8) × Pipe) := do
  let (received, after) ← pipe.recvFrame P none none cuts
  return (received.map fun (msgType, _, payload) =>
    { msgType, payload := decodePayload payload }, after)

variable [DecidableEq κ] (S : IdealSuite P κ) (setting : HandshakeSetting κ)

namespace HandshakeNet

def start : HandshakeNet κ :=
  { draws := 0
    client := .start .clientHello
    server := .start .clientHello
    toServer := .empty
    toClient := .empty }

/-- Up to where the client waits again; a client that raises closes its socket. -/
def clientBlock (s : HandshakeNet κ) (event : Option PyError → ClientEvent UInt8) :
    Option (HandshakeNet κ) := do
  let (draws, client, bytes) ← sendOver P s.client fun fault =>
    clientStep S.toSuite setting.clientPrivateKey setting.serverPublicKey s.draws
      s.client (event fault)
  return { s with
    draws, client
    toServer := s.toServer.write bytes client.point.Raised }

def serverBlock (s : HandshakeNet κ) (event : Option PyError → ServerEvent UInt8) :
    Option (HandshakeNet κ) := do
  let (draws, server, bytes) ← sendOver P s.server fun fault =>
    serverStep S.toSuite setting.clientPublicKey setting.serverPrivateKey s.draws
      s.server (event fault)
  return { s with
    draws, server
    toClient := s.toClient.write bytes server.point.Raised }

def clientTurn (s : HandshakeNet κ) (cuts : List ℕ) : Option (HandshakeNet κ) :=
  match s.client.point with
  | .clientHello =>
      s.clientBlock P S setting fun fault => .start setting.tsC fault
  | .serverHello _ => do
      let (received, toClient) ← recvHandshake P s.toClient cuts
      { s with toClient }.clientBlock P S setting fun fault =>
        .serverHello received setting.clientClock fault
  | .serverDone _ _ => do
      let (received, toClient) ← recvHandshake P s.toClient cuts
      { s with toClient }.clientBlock P S setting fun _ => .serverDone received
  | .returned _ _ _ | .raised _ => none

def serverTurn (s : HandshakeNet κ) (cuts : List ℕ) : Option (HandshakeNet κ) :=
  match s.server.point with
  | .clientHello => do
      let (received, toServer) ← recvHandshake P s.toServer cuts
      { s with toServer }.serverBlock P S setting fun fault =>
        .clientHello received setting.serverClock setting.tsS fault
  | .clientResponse _ _ => do
      let (received, toServer) ← recvHandshake P s.toServer cuts
      { s with toServer }.serverBlock P S setting fun fault =>
        .clientResponse received fault
  | .returned _ _ _ | .raised _ => none

end HandshakeNet

def handshakeNetStep (s : HandshakeNet κ) :
    HandshakeNetEvent → Option (HandshakeNet κ)
  | .deliverToServer size => do
      return { s with toServer := ← s.toServer.deliver size }
  | .deliverToClient size => do
      return { s with toClient := ← s.toClient.deliver size }
  | .client cuts => s.clientTurn P S setting cuts
  | .server cuts => s.serverTurn P S setting cuts

end

/-! What each frame of the handshake is read as when it arrives. -/

def Frame.arrived (frame : Frame UInt8) : Frame UInt8 :=
  { msgType := frame.msgType, payload := decodePayload frame.payload.encode }

section

variable {κ : Type} [DecidableEq κ] {P : Primitives} (S : IdealSuite P κ)

theorem fromHex_toHex (bytes : Bytes) :
    fromHex S.toSuite (.str (toHex bytes)) = .ok bytes := by
  have same : bytes.map S.byte = bytes := by
    conv_rhs => rw [← List.map_id bytes]
    exact List.map_congr_left fun value _ => S.byte_apply value
  simp only [fromHex, fromHexChars_toHex, same]

theorem lookup_arrived (fields : List (String × JsonValue UInt8)) (key : String) :
    (fields.map fun field => (field.1, field.2.carried)).lookup key =
      (fields.lookup key).map JsonValue.carried := by
  induction fields with
  | nil => rfl
  | cons field rest ih =>
      rw [List.map_cons, List.lookup_cons, List.lookup_cons, ih]
      split <;> rfl

variable {fields : List (String × JsonValue UInt8)} {key : String}

theorem get_arrived {value : PyNumber}
    (found : fields.lookup key = some (.number value)) :
    (Json.dict (fields.map fun field => (field.1, field.2.carried))).get key =
      .ok (.number value) := by
  rw [Json.get, lookup_arrived, found]
  rfl

theorem getHex_arrived {bytes : Bytes}
    (found : fields.lookup key = some (.hex bytes)) :
    (Json.dict (fields.map fun field => (field.1, field.2.carried))).getHex
      S.toSuite key = .ok bytes := by
  have got : (Json.dict (fields.map fun field => (field.1, field.2.carried))).get key =
      .ok (.str (toHex bytes)) := by
    rw [Json.get, lookup_arrived, found]
    rfl
  rw [Json.getHex, got]
  exact fromHex_toHex S bytes

theorem SendableFields.arrived (sendable : SendableFields fields)
    (msgType : MessageType) :
    Frame.arrived { msgType, payload := .json (.dict fields) } =
      { msgType
        payload :=
          .json (.dict (fields.map fun field => (field.1, field.2.carried))) } := by
  rw [Frame.arrived, sendable.decodePayload_encode]

theorem clientHello_sendable {nonceC : Bytes} (short : nonceC.length ≤ rsaLimit)
    (tsC : Reading) :
    SendableFields [("nonce_c", .hex nonceC), ("timestamp", .number (.float tsC))] where
  values := by simp [JsonValue.Sendable, tsC.property, short]
  keys := by simp
  short := by simp; decide
  few := by simp

theorem serverHello_sendable {nonceS challengeS sigS : Bytes}
    (nonce : nonceS.length ≤ rsaLimit) (challenge : challengeS.length ≤ rsaLimit)
    (sig : sigS.length ≤ rsaLimit) (tsS : Reading) :
    SendableFields [("nonce_s", .hex nonceS), ("timestamp", .number (.float tsS)),
      ("challenge", .hex challengeS), ("signature", .hex sigS)] where
  values := by simp [JsonValue.Sendable, tsS.property, nonce, challenge, sig]
  keys := by simp
  short := by simp; decide
  few := by simp

theorem pair_sendable {first second : String} {left right : Bytes}
    (differ : first ≠ second) (firstShort : first.length ≤ 32)
    (secondShort : second.length ≤ 32) (leftShort : left.length ≤ rsaLimit)
    (rightShort : right.length ≤ rsaLimit) :
    SendableFields [(first, .hex left), (second, .hex right)] where
  values := by simp [JsonValue.Sendable, leftShort, rightShort]
  keys := by simp [differ]
  short := by simp [firstShort, secondShort]
  few := by simp

theorem readClientHello_arrived {nonceC : Bytes} (short : nonceC.length ≤ rsaLimit)
    (tsC : Reading) :
    readClientHello S.toSuite (Frame.arrived
      { msgType := .handshakeClientHello
        payload := clientHelloPayload nonceC tsC }) =
      .ok (nonceC, .number (.float tsC)) := by
  rw [clientHelloPayload, (clientHello_sendable short tsC).arrived,
    readClientHello_eq_ok]
  exact ⟨rfl, _, rfl, getHex_arrived S rfl, get_arrived rfl⟩

/-- The challenge that goes with a signed transcript. -/
def challengeOf (transcript : Bytes) : Bytes :=
  S.toSuite.computeHmac transcript S.toSuite.challengeKey

theorem challengeOf_length (transcript : Bytes) :
    (challengeOf S transcript).length ≤ rsaLimit := by
  rw [challengeOf, Suite.computeHmac, S.hmac_apply, P.hmac_length]
  decide

theorem readServerHello_arrived {serverPublicKey serverPrivateKey : κ}
    {nonceC nonceS salt result : Bytes} {clock : ℚ} {tsS : Reading}
    (short : nonceS.length ≤ rsaLimit) :
    readServerHello S.toSuite serverPublicKey nonceC clock (Frame.arrived
      { msgType := .handshakeServerHello
        payload := serverHelloPayload nonceS tsS (challengeOf S (nonceC ++ nonceS))
          (S.sign serverPrivateKey (nonceC ++ nonceS) salt) }) = .ok result ↔
      result = nonceS ∧ drift clock tsS ≤ maxTimestampDrift ∧
        serverPublicKey = serverPrivateKey := by
  have sendable := serverHello_sendable short
    (challengeOf_length S (nonceC ++ nonceS))
    (S.sign_length serverPrivateKey (nonceC ++ nonceS) salt) tsS
  rw [serverHelloPayload, sendable.arrived, readServerHello_eq_ok]
  constructor
  · rintro ⟨-, sh, ts, challenge, sig, decoded, nonceRead, tsRead, challengeRead,
      sigRead, window, verified, -⟩
    obtain rfl := Payload.json.inj decoded
    cases (getHex_arrived S rfl).symm.trans nonceRead
    cases (getHex_arrived S rfl).symm.trans sigRead
    cases (get_arrived rfl).symm.trans tsRead
    rw [S.verify_sign, decide_eq_true_iff] at verified
    have inside := of_decide_eq_false (Except.ok.inj window)
    exact ⟨rfl, not_lt.mp inside, verified⟩
  · rintro ⟨rfl, inside, rfl⟩
    refine ⟨rfl, _, _, _, _, rfl, getHex_arrived S rfl,
      get_arrived rfl, getHex_arrived S rfl,
      getHex_arrived S rfl, ?_, ?_, ?_⟩
    · exact congrArg Except.ok (decide_eq_false (not_lt.mpr inside))
    · rw [S.verify_sign, decide_eq_true rfl]
    · exact decide_eq_true rfl

theorem readClientResponse_arrived {clientPrivateKey : κ}
    (transcript data salt : Bytes) :
    readClientResponse S.toSuite (Frame.arrived
      { msgType := .handshakeClientResponse
        payload := clientResponsePayload (challengeOf S transcript)
          (S.sign clientPrivateKey data salt) }) =
      .ok (challengeOf S transcript, S.sign clientPrivateKey data salt) := by
  have sendable := pair_sendable (show "challenge_response" ≠ "signature" by decide)
    (by decide) (by decide) (challengeOf_length S transcript)
    (S.sign_length clientPrivateKey data salt)
  rw [clientResponsePayload, sendable.arrived, readClientResponse_eq_ok]
  exact ⟨rfl, _, rfl, getHex_arrived S rfl, getHex_arrived S rfl⟩

theorem readServerDone_arrived (clientKey : κ) {sessionId : Bytes}
    (short : sessionId.length ≤ rsaLimit) {sessionKey : Bytes}
    (size : sessionKey.length = aesKeySize) (seed : Bytes) :
    readServerDone S.toSuite clientKey (Frame.arrived
      { msgType := .handshakeServerDone
        payload := serverDonePayload sessionId
          (S.encrypt clientKey sessionKey seed) }) =
      .ok (sessionId, sessionKey) := by
  have sendable := pair_sendable
    (show "session_id" ≠ "encrypted_session_key" by decide)
    (by decide) (by decide) short (S.encrypt_length clientKey sessionKey seed)
  rw [serverDonePayload, sendable.arrived, readServerDone_eq_ok]
  exact ⟨rfl, _, _, rfl, getHex_arrived S rfl, getHex_arrived S rfl,
    S.decrypt_encrypt _ _ _ size⟩

end

end VpnTunnel.Auth
