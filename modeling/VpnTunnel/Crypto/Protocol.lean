import Mathlib.Algebra.Group.Nat.Defs
import VpnTunnel.Crypto.Primitives

namespace VpnTunnel.Crypto

def headerSize : Nat := 4
def sessionIdSize : Nat := 16
def maxFrameSize : Nat := 16 * 1024 * 1024
def handshakeHmacKey : Bytes := List.replicate 32 0

inductive MessageType
  | handshakeClientHello
  | handshakeServerHello
  | handshakeClientResponse
  | handshakeServerDone
  | dataRequest
  | dataResponse
  | error
  deriving DecidableEq, Repr

namespace MessageType

def code : MessageType → UInt8
  | handshakeClientHello => 0x01
  | handshakeServerHello => 0x02
  | handshakeClientResponse => 0x03
  | handshakeServerDone => 0x04
  | dataRequest => 0x10
  | dataResponse => 0x11
  | error => 0xFF

def name : MessageType → String
  | handshakeClientHello => "HANDSHAKE_CLIENT_HELLO"
  | handshakeServerHello => "HANDSHAKE_SERVER_HELLO"
  | handshakeClientResponse => "HANDSHAKE_CLIENT_RESPONSE"
  | handshakeServerDone => "HANDSHAKE_SERVER_DONE"
  | dataRequest => "DATA_REQUEST"
  | dataResponse => "DATA_RESPONSE"
  | error => "ERROR"

/-- The enum constructor `MessageType(value)`. -/
def ofCode (value : UInt8) : Except PyError MessageType :=
  if value = 0x01 then .ok handshakeClientHello
  else if value = 0x02 then .ok handshakeServerHello
  else if value = 0x03 then .ok handshakeClientResponse
  else if value = 0x04 then .ok handshakeServerDone
  else if value = 0x10 then .ok dataRequest
  else if value = 0x11 then .ok dataResponse
  else if value = 0xFF then .ok error
  else .error (.valueError s!"{value} is not a valid MessageType")

@[simp] theorem ofCode_code (msgType : MessageType) :
    ofCode msgType.code = .ok msgType := by
  cases msgType <;> rfl

theorem code_of_ofCode {value : UInt8} {msgType : MessageType}
    (decoded : ofCode value = .ok msgType) : msgType.code = value := by
  unfold ofCode at decoded
  split_ifs at decoded with h1 h2 h3 h4 h5 h6 h7 <;> cases decoded <;>
    simp [code, *]

end MessageType

/-! One end of a TCP connection.  `incoming` is what the peer's side of the
stream still holds, `cuts` how the next `recv` calls cut it, `ending` what a
`recv` meets once it is used up, and `outgoing` what `sendall` has written. -/

inductive StreamEnd
  | eof
  | timeout
  | reset
  deriving DecidableEq, Repr

structure Sock where
  incoming : Bytes
  cuts : List Nat
  ending : StreamEnd
  outgoing : Bytes
  deriving DecidableEq, Repr

abbrev SockM := EStateM PyError Sock

/-- `sock.recv(n)`: a non-empty chunk of at most `n` bytes, or the stream's end. -/
def recv (n : Nat) : SockM Bytes := fun s =>
  if s.incoming = [] then
    match s.ending with
    | .eof => .ok [] s
    | .timeout => .error .timeout s
    | .reset => .error (.connectionError "Connection reset by peer") s
  else
    let size := min n (s.cuts.headD n + 1)
    .ok (s.incoming.take size)
      { s with incoming := s.incoming.drop size, cuts := s.cuts.tail }

def sendall (data : Bytes) : SockM Unit := fun s =>
  .ok () { s with outgoing := s.outgoing ++ data }

def recvExactLoop (n : Nat) (buf : Bytes) : SockM Bytes := do
  if buf.length < n then
    let chunk ← recv (n - buf.length)
    if chunk = [] then
      throw (.connectionError
        s!"Connection closed after receiving {buf.length}/{n} bytes")
    else
      recvExactLoop n (buf ++ chunk)
  else
    return buf
termination_by n - buf.length
decreasing_by
  rename_i short nonempty
  have := List.length_pos_iff.mpr nonempty
  simp only [List.length_append]
  omega

def recvExact (n : Nat) : SockM Bytes := recvExactLoop n []

/-- `struct.pack("!I", n)`, the four big-endian bytes of `n`. -/
def packHeader (n : Nat) : Bytes :=
  [UInt8.ofNat (n / 2 ^ 24), UInt8.ofNat (n / 2 ^ 16), UInt8.ofNat (n / 2 ^ 8),
    UInt8.ofNat n]

def unpackHeader : Bytes → Nat
  | [b3, b2, b1, b0] =>
      b3.toNat * 2 ^ 24 + b2.toNat * 2 ^ 16 + b1.toNat * 2 ^ 8 + b0.toNat
  | _ => 0

/-- `mac_key or HANDSHAKE_HMAC_KEY`: an empty key counts as absent. -/
def orHandshakeKey : Option Bytes → Bytes
  | none => handshakeHmacKey
  | some [] => handshakeHmacKey
  | some (byte :: rest) => byte :: rest

def protectPayload (P : Primitives) (payload : Bytes) (encKey : Option Bytes)
    (urandom : GcmNonce) : Except PyError (Bytes × Bytes) :=
  match encKey with
  | some key => encryptPayload P payload key urandom
  | none => .ok (payload, List.replicate gcmNonceSize 0)

def recoverPayload (P : Primitives) (encPayload nonce : Bytes)
    (encKey : Option Bytes) : Except PyError Bytes :=
  match encKey with
  | some key => decryptPayload P encPayload nonce key
  | none => .ok encPayload

def frameBody (msgType : MessageType) (sessionId nonce encPayload : Bytes) :
    Bytes :=
  [msgType.code] ++ sessionId ++ nonce ++ encPayload

/-- The part of `send_frame` before `sock.sendall`: the bytes of the frame. -/
def buildFrame (P : Primitives) (msgType : MessageType)
    (sessionId payload : Bytes) (encKey macKey : Option Bytes)
    (urandom : GcmNonce) : Except PyError Bytes := do
  if sessionId.length ≠ sessionIdSize then
    throw (.valueError
      s!"session_id must be {sessionIdSize} bytes, got {sessionId.length}")
  let (encPayload, nonce) ← protectPayload P payload encKey urandom
  let body := frameBody msgType sessionId nonce encPayload
  let mac := computeHmac P body (orHandshakeKey macKey)
  let totalLen := body.length + hmacDigestSize
  if totalLen > maxFrameSize then
    throw (.valueError s!"Frame too large: {totalLen} > {maxFrameSize}")
  return packHeader totalLen ++ body ++ mac

def sendFrame (P : Primitives) (msgType : MessageType)
    (sessionId payload : Bytes) (encKey macKey : Option Bytes)
    (urandom : GcmNonce) : SockM Unit := do
  let frame ← MonadExcept.ofExcept
    (buildFrame P msgType sessionId payload encKey macKey urandom)
  sendall frame

def minBody : Nat := 1 + sessionIdSize + gcmNonceSize + hmacDigestSize

/-- The part of `recv_frame` that reads from the socket: `raw`, all of the frame
after its length header. -/
def recvRaw : SockM Bytes := do
  let header ← recvExact headerSize
  let totalLen := unpackHeader header
  if totalLen > maxFrameSize then
    throw (.valueError s!"Frame too large: {totalLen} > {maxFrameSize}")
  if totalLen < minBody then
    throw (.valueError s!"Frame too small: {totalLen} < {minBody}")
  recvExact totalLen

def rawBody (raw : Bytes) : Bytes := raw.take (raw.length - hmacDigestSize)
def rawMac (raw : Bytes) : Bytes := raw.drop (raw.length - hmacDigestSize)

/-- The part of `recv_frame` after the reads, on the bytes it has read. -/
def openFrame (P : Primitives) (raw : Bytes) (encKey macKey : Option Bytes) :
    Except PyError (MessageType × Bytes × Bytes) := do
  let body := rawBody raw
  if ¬ verifyHmac P body (rawMac raw) (orHandshakeKey macKey) then
    throw (.valueError "HMAC verification failed — frame may be tampered")
  let code ← match body.head? with
    | some code => pure code
    | none => throw .indexError
  let msgType ← MessageType.ofCode code
  let sessionId := (body.drop 1).take sessionIdSize
  let nonce := (body.drop (1 + sessionIdSize)).take gcmNonceSize
  let encPayload := body.drop (1 + sessionIdSize + gcmNonceSize)
  let payload ← recoverPayload P encPayload nonce encKey
  return (msgType, sessionId, payload)

def recvFrame (P : Primitives) (encKey macKey : Option Bytes) :
    SockM (MessageType × Bytes × Bytes) := do
  let raw ← recvRaw
  MonadExcept.ofExcept (openFrame P raw encKey macKey)

/-- The triple that either side's handshake returns. -/
structure SessionKeys where
  sessionId : Bytes
  encKey : Bytes
  macKey : Bytes
  deriving DecidableEq, Repr

end VpnTunnel.Crypto
