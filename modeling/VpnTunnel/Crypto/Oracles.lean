import Mathlib.Data.List.Basic
import VpnTunnel.Crypto.Protocol

namespace VpnTunnel.Crypto

/-! AES-GCM and HMAC as oracles with a memory.  The framing layer is written once
more over any such pair; the library's functions are the pair that remembers
nothing. -/

structure Oracles (σ : Type) where
  gcmEncrypt : σ → (key nonce plaintext : Bytes) → Bytes × σ
  gcmDecrypt : σ → (key nonce ciphertext : Bytes) → Option Bytes
  hmac : σ → (key message : Bytes) → Bytes × σ
  verify : σ → (key message mac : Bytes) → Bool

namespace Oracles

variable {σ : Type} (O : Oracles σ) (memory : σ)

def protectPayload (payload : Bytes) (encKey : Option Bytes)
    (urandom : GcmNonce) : Except PyError ((Bytes × Bytes) × σ) :=
  match encKey with
  | some key => do
      checkKeySize key
      let (ciphertext, memory) := O.gcmEncrypt memory key urandom.val payload
      return ((ciphertext, urandom.val), memory)
  | none => .ok ((payload, List.replicate gcmNonceSize 0), memory)

def buildFrame (msgType : MessageType) (sessionId payload : Bytes)
    (encKey macKey : Option Bytes) (urandom : GcmNonce) :
    Except PyError (Bytes × σ) := do
  if sessionId.length ≠ sessionIdSize then
    throw (.valueError
      s!"session_id must be {sessionIdSize} bytes, got {sessionId.length}")
  let ((encPayload, nonce), memory) ←
    O.protectPayload memory payload encKey urandom
  let body := frameBody msgType sessionId nonce encPayload
  let (mac, memory) := O.hmac memory (orHandshakeKey macKey) body
  let totalLen := body.length + hmacDigestSize
  if totalLen > maxFrameSize then
    throw (.valueError s!"Frame too large: {totalLen} > {maxFrameSize}")
  return (packHeader totalLen ++ body ++ mac, memory)

def recoverPayload (encPayload nonce : Bytes) (encKey : Option Bytes) :
    Except PyError Bytes :=
  match encKey with
  | some key => do
      checkKeySize key
      if nonce.length ≠ gcmNonceSize then
        throw (.valueError
          s!"Nonce must be {gcmNonceSize} bytes, got {nonce.length}")
      match O.gcmDecrypt memory key nonce encPayload with
      | some plaintext => return plaintext
      | none => throw .invalidTag
  | none => .ok encPayload

def openFrame (raw : Bytes) (encKey macKey : Option Bytes) :
    Except PyError (MessageType × Bytes × Bytes) := do
  let body := rawBody raw
  if ¬ O.verify memory (orHandshakeKey macKey) body (rawMac raw) then
    throw (.valueError "HMAC verification failed — frame may be tampered")
  let code ← match body.head? with
    | some code => pure code
    | none => throw .indexError
  let msgType ← MessageType.ofCode code
  let sessionId := (body.drop 1).take sessionIdSize
  let nonce := (body.drop (1 + sessionIdSize)).take gcmNonceSize
  let encPayload := body.drop (1 + sessionIdSize + gcmNonceSize)
  let payload ← O.recoverPayload memory encPayload nonce encKey
  return (msgType, sessionId, payload)

def recvFrame (encKey macKey : Option Bytes) :
    SockM (MessageType × Bytes × Bytes) := do
  let raw ← recvRaw
  MonadExcept.ofExcept (O.openFrame memory raw encKey macKey)

def real (P : Primitives) : Oracles Unit where
  gcmEncrypt _ key nonce plaintext := (P.gcmEncrypt key nonce plaintext, ())
  gcmDecrypt _ key nonce ciphertext := P.gcmDecrypt key nonce ciphertext
  hmac _ key message := (P.hmac key message, ())
  verify _ key message mac := verifyHmac P message mac key

/-! Over the library's functions it is the framing layer of the program. -/

section

variable (P : Primitives)

theorem protectPayload_real (payload : Bytes) (encKey : Option Bytes)
    (urandom : GcmNonce) :
    (real P).protectPayload () payload encKey urandom =
      (Crypto.protectPayload P payload encKey urandom).map fun protect =>
        (protect, ()) := by
  cases encKey with
  | none => rfl
  | some key =>
      simp only [protectPayload, Crypto.protectPayload, encryptPayload, real]
      cases checkKeySize key <;> rfl

theorem buildFrame_real (msgType : MessageType) (sessionId payload : Bytes)
    (encKey macKey : Option Bytes) (urandom : GcmNonce) :
    (real P).buildFrame () msgType sessionId payload encKey macKey urandom =
      (Crypto.buildFrame P msgType sessionId payload encKey macKey
        urandom).map fun frame => (frame, ()) := by
  unfold buildFrame Crypto.buildFrame
  rw [protectPayload_real]
  split
  · rfl
  · cases Crypto.protectPayload P payload encKey urandom with
    | error error => rfl
    | ok protect =>
        simp only [bind, Except.bind, Except.map, pure, Except.pure]
        split <;> rfl

theorem recoverPayload_real (encPayload nonce : Bytes) (encKey : Option Bytes) :
    (real P).recoverPayload () encPayload nonce encKey =
      Crypto.recoverPayload P encPayload nonce encKey := by
  cases encKey <;> rfl

theorem recvFrame_real (encKey macKey : Option Bytes) :
    (real P).recvFrame () encKey macKey = Crypto.recvFrame P encKey macKey := by
  unfold recvFrame Crypto.recvFrame openFrame Crypto.openFrame
  simp only [recoverPayload_real]
  rfl

end

end Oracles

/-! The ideal oracles.  A ciphertext is noise of the right length and a tag is noise;
only what was encrypted is decrypted, and only what was tagged verifies. -/

structure Noise where
  bytes : (draw length : ℕ) → Bytes
  length_bytes : ∀ draw length, (bytes draw length).length = length

structure Sealed where
  key : Bytes
  nonce : Bytes
  ciphertext : Bytes
  plaintext : Bytes
  deriving DecidableEq, Repr

structure Tagged where
  key : Bytes
  message : Bytes
  mac : Bytes
  deriving DecidableEq, Repr

structure IdealMemory where
  sealed : List Sealed
  tagged : List Tagged
  deriving DecidableEq, Repr

namespace IdealMemory

def empty : IdealMemory := { sealed := [], tagged := [] }

def draws (memory : IdealMemory) : ℕ :=
  memory.sealed.length + memory.tagged.length

def findSealed (memory : IdealMemory) (key nonce ciphertext : Bytes) :
    Option Sealed :=
  memory.sealed.find? fun entry =>
    entry.key == key && entry.nonce == nonce && entry.ciphertext == ciphertext

def findTagged (memory : IdealMemory) (key message : Bytes) : Option Tagged :=
  memory.tagged.find? fun entry => entry.key == key && entry.message == message

end IdealMemory

def Oracles.ideal (noise : Noise) : Oracles IdealMemory where
  gcmEncrypt memory key nonce plaintext :=
    let ciphertext := noise.bytes memory.draws (plaintext.length + gcmTagSize)
    (ciphertext, { memory with
      sealed := { key, nonce, ciphertext, plaintext } :: memory.sealed })
  gcmDecrypt memory key nonce ciphertext :=
    (memory.findSealed key nonce ciphertext).map Sealed.plaintext
  hmac memory key message :=
    match memory.findTagged key message with
    | some entry => (entry.mac, memory)
    | none =>
        let mac := noise.bytes memory.draws hmacDigestSize
        (mac, { memory with tagged := { key, message, mac } :: memory.tagged })
  verify memory key message mac :=
    memory.tagged.any fun entry =>
      entry.key == key && entry.message == message && entry.mac == mac

/-! A payload without its contents. -/

def hide (payload : Bytes) : Bytes := List.replicate payload.length 0

@[simp] theorem length_hide (payload : Bytes) :
    (hide payload).length = payload.length := List.length_replicate

@[simp] theorem hide_hide (payload : Bytes) :
    hide (hide payload) = hide payload := by
  rw [hide, length_hide]
  rfl

theorem hide_eq_hide {first second : Bytes} :
    hide first = hide second ↔ first.length = second.length := by
  constructor
  · intro same
    rw [← length_hide first, same, length_hide]
  · intro same
    rw [hide, same]
    rfl

/-- The oracles go on in the same way when their memory loses the contents of all
payloads: what they return to the sender depends on lengths alone. -/
structure Oracles.LengthOnly {σ : Type} (O : Oracles σ) (blind : σ → σ) : Prop
    where
  blind_blind : ∀ memory, blind (blind memory) = blind memory
  gcmEncrypt : ∀ memory key nonce plaintext,
    O.gcmEncrypt (blind memory) key nonce (hide plaintext) =
      (O.gcmEncrypt memory key nonce plaintext).map id blind
  gcmDecrypt : ∀ memory key nonce ciphertext,
    O.gcmDecrypt (blind memory) key nonce ciphertext =
      (O.gcmDecrypt memory key nonce ciphertext).map hide
  hmac : ∀ memory key message,
    O.hmac (blind memory) key message = (O.hmac memory key message).map id blind
  verify : ∀ memory key message mac,
    O.verify (blind memory) key message mac = O.verify memory key message mac

namespace Oracles.LengthOnly

variable {σ : Type} {O : Oracles σ} {blind : σ → σ}
  (hides : O.LengthOnly blind)

include hides

theorem protectPayload_hide (memory : σ) (payload key : Bytes)
    (urandom : GcmNonce) :
    O.protectPayload (blind memory) (hide payload) (some key) urandom =
      (O.protectPayload memory payload (some key) urandom).map
        (Prod.map id blind) := by
  simp only [protectPayload, hides.gcmEncrypt]
  cases checkKeySize key <;> rfl

theorem buildFrame_of_protectPayload (memory : σ) {payload other : Bytes}
    {encKey : Option Bytes} {urandom : GcmNonce}
    (protect : O.protectPayload (blind memory) other encKey urandom =
      (O.protectPayload memory payload encKey urandom).map (Prod.map id blind))
    (msgType : MessageType) (sessionId : Bytes) (macKey : Option Bytes) :
    O.buildFrame (blind memory) msgType sessionId other encKey macKey urandom =
      (O.buildFrame memory msgType sessionId payload encKey macKey urandom).map
        (Prod.map id blind) := by
  unfold buildFrame
  rw [protect]
  split
  · rfl
  · cases O.protectPayload memory payload encKey urandom with
    | error error => rfl
    | ok protect =>
        simp only [bind, Except.bind, Except.map, pure, Except.pure, Prod.map_fst,
          Prod.map_snd, id_eq, hides.hmac]
        split <;> rfl

/-- An encrypted frame shows the length of its payload. -/
theorem buildFrame_hide (memory : σ) (msgType : MessageType)
    (sessionId payload key : Bytes) (macKey : Option Bytes)
    (urandom : GcmNonce) :
    O.buildFrame (blind memory) msgType sessionId (hide payload) (some key) macKey
        urandom =
      (O.buildFrame memory msgType sessionId payload (some key) macKey
        urandom).map (Prod.map id blind) :=
  hides.buildFrame_of_protectPayload memory
    (hides.protectPayload_hide memory payload key urandom) msgType sessionId macKey

theorem buildFrame_alike (memory : σ) (msgType : MessageType)
    {payload other : Bytes} (same : hide other = hide payload)
    (sessionId key : Bytes) (macKey : Option Bytes) (urandom : GcmNonce) :
    (O.buildFrame (blind memory) msgType sessionId other (some key) macKey
        urandom).map (Prod.map id blind) =
      (O.buildFrame memory msgType sessionId payload (some key) macKey
        urandom).map (Prod.map id blind) := by
  rw [← hides.buildFrame_hide, ← hides.buildFrame_hide, hides.blind_blind, same]

/-- A frame of the handshake shows its payload, and nothing of the memory. -/
theorem buildFrame_plain (memory : σ) (msgType : MessageType)
    (sessionId payload : Bytes) (macKey : Option Bytes) (urandom : GcmNonce) :
    O.buildFrame (blind memory) msgType sessionId payload none macKey urandom =
      (O.buildFrame memory msgType sessionId payload none macKey urandom).map
        (Prod.map id blind) :=
  hides.buildFrame_of_protectPayload memory rfl msgType sessionId macKey

theorem recoverPayload_hide (memory : σ) (encPayload nonce key : Bytes) :
    O.recoverPayload (blind memory) encPayload nonce (some key) =
      (O.recoverPayload memory encPayload nonce (some key)).map hide := by
  simp only [recoverPayload, hides.gcmDecrypt]
  cases checkKeySize key with
  | error error => rfl
  | ok checked =>
      simp only [bind, Except.bind]
      split
      · rfl
      · cases O.gcmDecrypt memory key nonce encPayload <;> rfl

theorem openFrame_hide (memory : σ) (raw key : Bytes) (macKey : Option Bytes) :
    O.openFrame (blind memory) raw (some key) macKey =
      (O.openFrame memory raw (some key) macKey).map
        (Prod.map id (Prod.map id hide)) := by
  unfold openFrame
  simp only [hides.verify, hides.recoverPayload_hide, bind, Except.bind]
  split
  · rfl
  · cases (rawBody raw).head? with
    | none => rfl
    | some code =>
        simp only [pure, Except.pure]
        cases MessageType.ofCode code with
        | error error => rfl
        | ok msgType =>
            cases O.recoverPayload memory _ _ (some key) <;> rfl

theorem recvFrame_hide (memory : σ) (key : Bytes) (macKey : Option Bytes)
    (sock : Sock) :
    (∃ error after, O.recvFrame memory (some key) macKey sock =
        .error error after ∧
      O.recvFrame (blind memory) (some key) macKey sock = .error error after) ∨
    ∃ msgType sessionId payload after,
      O.recvFrame memory (some key) macKey sock =
        .ok (msgType, sessionId, payload) after ∧
      O.recvFrame (blind memory) (some key) macKey sock =
        .ok (msgType, sessionId, hide payload) after := by
  simp only [recvFrame, bind, EStateM.bind, hides.openFrame_hide]
  cases recvRaw sock with
  | error error after => exact .inl ⟨error, after, rfl, rfl⟩
  | ok raw after =>
      dsimp only
      cases O.openFrame memory raw (some key) macKey with
      | error error => exact .inl ⟨error, after, rfl, rfl⟩
      | ok frame => exact .inr ⟨frame.1, frame.2.1, frame.2.2, after, rfl, rfl⟩

end Oracles.LengthOnly

/-! The ideal oracles need no payload but for its length. -/

def Sealed.blind (entry : Sealed) : Sealed :=
  { entry with plaintext := hide entry.plaintext }

def IdealMemory.blind (memory : IdealMemory) : IdealMemory :=
  { memory with sealed := memory.sealed.map Sealed.blind }

theorem IdealMemory.draws_blind (memory : IdealMemory) :
    memory.blind.draws = memory.draws := by
  rw [draws, blind, List.length_map, draws]

theorem IdealMemory.findSealed_blind (memory : IdealMemory)
    (key nonce ciphertext : Bytes) :
    memory.blind.findSealed key nonce ciphertext =
      (memory.findSealed key nonce ciphertext).map Sealed.blind :=
  List.find?_map ..

theorem ideal_lengthOnly (noise : Noise) :
    (Oracles.ideal noise).LengthOnly IdealMemory.blind where
  blind_blind memory := by
    rw [IdealMemory.blind, IdealMemory.blind, List.map_map]
    congr 1
    apply List.map_congr_left
    intro entry _
    rw [Function.comp_apply, Sealed.blind, Sealed.blind, hide_hide]
  gcmEncrypt memory key nonce plaintext := by
    simp only [Oracles.ideal, IdealMemory.draws_blind, length_hide]
    rfl
  gcmDecrypt memory key nonce ciphertext := by
    simp only [Oracles.ideal, IdealMemory.findSealed_blind, Option.map_map]
    rfl
  hmac memory key message := by
    have found : memory.blind.findTagged key message =
        memory.findTagged key message := rfl
    simp only [Oracles.ideal, IdealMemory.draws_blind, found]
    cases memory.findTagged key message <;> rfl
  verify memory key message mac := rfl

end VpnTunnel.Crypto
