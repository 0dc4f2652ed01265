import Mathlib.Data.List.Basic

namespace VpnTunnel.Crypto

abbrev Bytes := List UInt8

def aesKeySize : Nat := 32
def gcmNonceSize : Nat := 12
def hmacDigestSize : Nat := 32
def gcmTagSize : Nat := 16

/-! The exceptions the program raises or lets through, with their texts where
the program itself supplies them. -/

inductive PyError
  | valueError (message : String)
  | connectionError (message : String)
  | runtimeError (message : String)
  | timeout
  | invalidTag
  | typeError
  | keyError (key : String)
  | indexError
  | overflowError
  | osError
  deriving DecidableEq, Repr

/-- What `os.urandom(GCM_NONCE_SIZE)` returns. -/
abbrev GcmNonce := { nonce : Bytes // nonce.length = gcmNonceSize }

def zeroNonce : GcmNonce :=
  ⟨List.replicate gcmNonceSize 0, List.length_replicate⟩

/-- The library primitives under the program, with the behaviour it relies on:
digest and tag sizes, and that decryption inverts encryption. -/
structure Primitives where
  hmac : (key message : Bytes) → Bytes
  gcmEncrypt : (key nonce plaintext : Bytes) → Bytes
  gcmDecrypt : (key nonce ciphertext : Bytes) → Option Bytes
  hmac_length : ∀ key message, (hmac key message).length = hmacDigestSize
  gcmEncrypt_length : ∀ key nonce plaintext,
    key.length = aesKeySize → nonce.length = gcmNonceSize →
    (gcmEncrypt key nonce plaintext).length = plaintext.length + gcmTagSize
  gcmDecrypt_gcmEncrypt : ∀ key nonce plaintext,
    key.length = aesKeySize → nonce.length = gcmNonceSize →
    gcmDecrypt key nonce (gcmEncrypt key nonce plaintext) = some plaintext

/-- Primitives that hide nothing, to compute runs with: the tag is a prefix of
key and message, the ciphertext the plaintext with a blank tag. -/
def Primitives.transparent : Primitives where
  hmac key message :=
    (key ++ message ++ List.replicate hmacDigestSize 0).take hmacDigestSize
  gcmEncrypt _ _ plaintext := plaintext ++ List.replicate gcmTagSize 0
  gcmDecrypt _ _ ciphertext :=
    if ciphertext.length < gcmTagSize then none
    else some (ciphertext.take (ciphertext.length - gcmTagSize))
  hmac_length := by
    intro key message
    simp only [List.length_take, List.length_append, List.length_replicate]
    omega
  gcmEncrypt_length := by
    intro key nonce plaintext _ _
    simp
  gcmDecrypt_gcmEncrypt := by
    intro key nonce plaintext _ _
    simp

def computeHmac (P : Primitives) (data key : Bytes) : Bytes :=
  P.hmac key data

def verifyHmac (P : Primitives) (data mac key : Bytes) : Bool :=
  computeHmac P data key == mac

def checkKeySize (key : Bytes) : Except PyError Unit :=
  if key.length ≠ aesKeySize then
    .error (.valueError s!"Key must be {aesKeySize} bytes, got {key.length}")
  else .ok ()

/-- The pair `(ciphertext, nonce)`; the nonce is the one `os.urandom` drew. -/
def encryptPayload (P : Primitives) (plaintext key : Bytes)
    (urandom : GcmNonce) : Except PyError (Bytes × Bytes) := do
  checkKeySize key
  return (P.gcmEncrypt key urandom.val plaintext, urandom.val)

def decryptPayload (P : Primitives) (ciphertext nonce key : Bytes) :
    Except PyError Bytes := do
  checkKeySize key
  if nonce.length ≠ gcmNonceSize then
    throw (.valueError
      s!"Nonce must be {gcmNonceSize} bytes, got {nonce.length}")
  match P.gcmDecrypt key nonce ciphertext with
  | some plaintext => return plaintext
  | none => throw .invalidTag

@[simp] theorem computeHmac_length (P : Primitives) (data key : Bytes) :
    (computeHmac P data key).length = hmacDigestSize :=
  P.hmac_length key data

@[simp] theorem verifyHmac_eq_true {P : Primitives} {data mac key : Bytes} :
    verifyHmac P data mac key = true ↔ computeHmac P data key = mac := by
  simp [verifyHmac]

@[simp] theorem checkKeySize_of_length {key : Bytes}
    (size : key.length = aesKeySize) : checkKeySize key = .ok () := by
  simp [checkKeySize, size]

theorem encryptPayload_of_length {P : Primitives} {plaintext key : Bytes}
    {urandom : GcmNonce} (size : key.length = aesKeySize) :
    encryptPayload P plaintext key urandom =
      .ok (P.gcmEncrypt key urandom.val plaintext, urandom.val) := by
  simp [encryptPayload, size, bind, Except.bind, pure, Except.pure]

theorem decryptPayload_gcmEncrypt {P : Primitives} {plaintext key : Bytes}
    {nonce : Bytes} (keySize : key.length = aesKeySize)
    (nonceSize : nonce.length = gcmNonceSize) :
    decryptPayload P (P.gcmEncrypt key nonce plaintext) nonce key =
      .ok plaintext := by
  simp [decryptPayload, keySize, nonceSize,
    P.gcmDecrypt_gcmEncrypt key nonce plaintext keySize nonceSize, bind,
    Except.bind, pure, Except.pure]

end VpnTunnel.Crypto
