import VpnTunnel.Crypto.Protocol

namespace VpnTunnel.Crypto

/-! What a successful `buildFrame` has produced and what a successful
`openFrame` has seen. -/

theorem protectPayload_nonce_length {P : Primitives} {payload : Bytes}
    {encKey : Option Bytes} {urandom : GcmNonce} {encPayload nonce : Bytes}
    (protect : protectPayload P payload encKey urandom = .ok (encPayload, nonce)) :
    nonce.length = gcmNonceSize := by
  cases encKey with
  | none =>
      cases protect
      exact List.length_replicate
  | some key =>
      by_cases size : key.length = aesKeySize
      · simp only [protectPayload, encryptPayload_of_length size,
          Except.ok.injEq, Prod.mk.injEq] at protect
        exact protect.2 ▸ urandom.property
      · simp [protectPayload, encryptPayload, checkKeySize, size, bind,
          Except.bind] at protect

theorem recoverPayload_of_protectPayload {P : Primitives} {payload : Bytes}
    {encKey : Option Bytes} {urandom : GcmNonce} {encPayload nonce : Bytes}
    (protect : protectPayload P payload encKey urandom = .ok (encPayload, nonce)) :
    recoverPayload P encPayload nonce encKey = .ok payload := by
  cases encKey with
  | none =>
      cases protect
      rfl
  | some key =>
      by_cases size : key.length = aesKeySize
      · simp only [protectPayload, encryptPayload_of_length size,
          Except.ok.injEq, Prod.mk.injEq] at protect
        obtain ⟨rfl, rfl⟩ := protect
        exact decryptPayload_gcmEncrypt size urandom.property
      · simp [protectPayload, encryptPayload, checkKeySize, size, bind,
          Except.bind] at protect

theorem protectPayload_error {P : Primitives} {payload : Bytes}
    {encKey : Option Bytes} {urandom : GcmNonce} {failure : PyError}
    (protect : protectPayload P payload encKey urandom = .error failure) :
    ∃ message, failure = .valueError message := by
  cases encKey with
  | none => cases protect
  | some key =>
      by_cases size : key.length = aesKeySize
      · simp [protectPayload, encryptPayload_of_length size] at protect
      · simp only [protectPayload, encryptPayload, checkKeySize, size, bind,
          Except.bind, ne_eq, not_false_eq_true, if_true,
          Except.error.injEq] at protect
        exact ⟨_, protect.symm⟩

@[simp] theorem frameBody_length (msgType : MessageType)
    (sessionId nonce encPayload : Bytes) :
    (frameBody msgType sessionId nonce encPayload).length =
      1 + sessionId.length + nonce.length + encPayload.length := by
  simp [frameBody]
  omega

section Slices

variable (msgType : MessageType) {sessionId nonce : Bytes} (encPayload : Bytes)

theorem frameBody_sessionId (nonce : Bytes)
    (sidSize : sessionId.length = sessionIdSize) :
    ((frameBody msgType sessionId nonce encPayload).drop 1).take
      sessionIdSize = sessionId := by
  simp [frameBody, ← sidSize]

theorem frameBody_nonce (sidSize : sessionId.length = sessionIdSize)
    (nonceSize : nonce.length = gcmNonceSize) :
    ((frameBody msgType sessionId nonce encPayload).drop
      (1 + sessionIdSize)).take gcmNonceSize = nonce := by
  simp [frameBody, ← sidSize, ← nonceSize, Nat.add_comm 1]

theorem frameBody_encPayload (sidSize : sessionId.length = sessionIdSize)
    (nonceSize : nonce.length = gcmNonceSize) :
    (frameBody msgType sessionId nonce encPayload).drop
      (1 + sessionIdSize + gcmNonceSize) = encPayload := by
  have shape : frameBody msgType sessionId nonce encPayload =
      (msgType.code :: (sessionId ++ nonce)) ++ encPayload := by
    simp [frameBody]
  have size : (msgType.code :: (sessionId ++ nonce)).length =
      1 + sessionIdSize + gcmNonceSize := by
    simp [sidSize, nonceSize]
    omega
  rw [shape, ← size, List.drop_left]

end Slices

theorem buildFrame_eq_ok {P : Primitives} {msgType : MessageType}
    {sessionId payload frame : Bytes} {encKey macKey : Option Bytes}
    {urandom : GcmNonce} :
    buildFrame P msgType sessionId payload encKey macKey urandom = .ok frame ↔
      sessionId.length = sessionIdSize ∧ ∃ encPayload nonce,
        protectPayload P payload encKey urandom = .ok (encPayload, nonce) ∧
        (frameBody msgType sessionId nonce encPayload).length +
          hmacDigestSize ≤ maxFrameSize ∧
        frame = packHeader ((frameBody msgType sessionId nonce
            encPayload).length + hmacDigestSize) ++
          frameBody msgType sessionId nonce encPayload ++
          computeHmac P (frameBody msgType sessionId nonce encPayload)
            (orHandshakeKey macKey) := by
  unfold buildFrame
  by_cases sidSize : sessionId.length = sessionIdSize
  · cases protect : protectPayload P payload encKey urandom with
    | error failure => simp [sidSize, bind, Except.bind]
    | ok pair =>
        obtain ⟨encPayload, nonce⟩ := pair
        by_cases fits : (frameBody msgType sessionId nonce encPayload).length +
            hmacDigestSize ≤ maxFrameSize
        · simp only [sidSize, ne_eq, not_true_eq_false, if_false,
            gt_iff_lt, Nat.not_lt.mpr fits, bind, Except.bind, pure,
            Except.pure, Except.ok.injEq, Prod.mk.injEq, true_and]
          constructor
          · rintro rfl
            exact ⟨encPayload, nonce, ⟨rfl, rfl⟩, fits, rfl⟩
          · rintro ⟨_, _, ⟨rfl, rfl⟩, _, rfl⟩
            rfl
        · simp only [sidSize, ne_eq, not_true_eq_false, if_false, gt_iff_lt,
            Nat.lt_of_not_le fits, if_true, bind, Except.bind, pure,
            Except.pure, throw, throwThe, MonadExceptOf.throw,
            reduceCtorEq, Except.ok.injEq, Prod.mk.injEq, true_and, false_iff]
          rintro ⟨_, _, ⟨rfl, rfl⟩, small, _⟩
          exact fits small
  · simp [sidSize, bind, Except.bind, throw, throwThe, MonadExceptOf.throw]

/-- What encryption adds to a payload. -/
def tagSize (encKey : Option Bytes) : ℕ := if encKey.isSome then gcmTagSize else 0

theorem protectPayload_length {P : Primitives} {payload : Bytes}
    {encKey : Option Bytes} {urandom : GcmNonce} {encPayload nonce : Bytes}
    (protect : protectPayload P payload encKey urandom = .ok (encPayload, nonce)) :
    (∀ key ∈ encKey, key.length = aesKeySize) ∧
      encPayload.length = payload.length + tagSize encKey := by
  cases encKey with
  | none =>
      cases protect
      exact ⟨nofun, rfl⟩
  | some key =>
      by_cases size : key.length = aesKeySize
      · rw [protectPayload, encryptPayload_of_length size, Except.ok.injEq,
          Prod.mk.injEq] at protect
        obtain ⟨rfl, -⟩ := protect
        exact ⟨fun other same => Option.mem_some_iff.mp same ▸ size,
          P.gcmEncrypt_length key urandom.val payload size urandom.property⟩
      · simp [protectPayload, encryptPayload, checkKeySize, size, bind,
          Except.bind] at protect

theorem exists_protectPayload (P : Primitives) (payload : Bytes) {encKey : Option Bytes}
    (sizes : ∀ key ∈ encKey, key.length = aesKeySize) (urandom : GcmNonce) :
    ∃ encPayload nonce, protectPayload P payload encKey urandom =
      .ok (encPayload, nonce) := by
  cases encKey with
  | none => exact ⟨_, _, rfl⟩
  | some key => exact ⟨_, _, encryptPayload_of_length (sizes key rfl)⟩

theorem exists_buildFrame_iff {P : Primitives} {msgType : MessageType}
    {sessionId payload : Bytes} {encKey macKey : Option Bytes} {urandom : GcmNonce} :
    (∃ frame, buildFrame P msgType sessionId payload encKey macKey urandom =
      .ok frame) ↔
      sessionId.length = sessionIdSize ∧ (∀ key ∈ encKey, key.length = aesKeySize) ∧
        minBody + (payload.length + tagSize encKey) ≤ maxFrameSize := by
  have total {encPayload nonce : Bytes} (sidSize : sessionId.length = sessionIdSize)
      (protect : protectPayload P payload encKey urandom = .ok (encPayload, nonce)) :
      (frameBody msgType sessionId nonce encPayload).length + hmacDigestSize =
        minBody + (payload.length + tagSize encKey) := by
    rw [frameBody_length, sidSize, protectPayload_nonce_length protect,
      (protectPayload_length protect).2]
    unfold minBody
    omega
  constructor
  · rintro ⟨frame, built⟩
    obtain ⟨sidSize, encPayload, nonce, protect, fits, -⟩ := buildFrame_eq_ok.mp built
    exact ⟨sidSize, (protectPayload_length protect).1, total sidSize protect ▸ fits⟩
  · rintro ⟨sidSize, keySizes, fits⟩
    obtain ⟨encPayload, nonce, protect⟩ := exists_protectPayload P payload keySizes urandom
    exact ⟨_, buildFrame_eq_ok.mpr
      ⟨sidSize, encPayload, nonce, protect, total sidSize protect ▸ fits, rfl⟩⟩

theorem buildFrame_error {P : Primitives} {msgType : MessageType}
    {sessionId payload : Bytes} {encKey macKey : Option Bytes}
    {urandom : GcmNonce} {failure : PyError}
    (failed : buildFrame P msgType sessionId payload encKey macKey urandom =
      .error failure) : ∃ message, failure = .valueError message := by
  unfold buildFrame at failed
  by_cases sidSize : sessionId.length = sessionIdSize
  · cases protect : protectPayload P payload encKey urandom with
    | error earlier =>
        simp only [sidSize, protect, ne_eq, not_true_eq_false, if_false, bind,
          Except.bind, Except.error.injEq] at failed
        exact failed ▸ protectPayload_error protect
    | ok pair =>
        simp only [sidSize, protect, ne_eq, not_true_eq_false, if_false, bind,
          Except.bind, pure, Except.pure, throw, throwThe,
          MonadExceptOf.throw] at failed
        split at failed
        · exact ⟨_, (Except.error.inj failed).symm⟩
        · cases failed
  · simp only [sidSize, ne_eq, not_false_eq_true, if_true, bind, Except.bind,
      throw, throwThe, MonadExceptOf.throw, Except.error.injEq] at failed
    exact ⟨_, failed.symm⟩

theorem openFrame_eq_ok {P : Primitives} {raw : Bytes}
    {encKey macKey : Option Bytes} {msgType : MessageType}
    {sessionId payload : Bytes} :
    openFrame P raw encKey macKey = .ok (msgType, sessionId, payload) ↔
      computeHmac P (rawBody raw) (orHandshakeKey macKey) = rawMac raw ∧
      (rawBody raw).head? = some msgType.code ∧
      ((rawBody raw).drop 1).take sessionIdSize = sessionId ∧
      recoverPayload P ((rawBody raw).drop (1 + sessionIdSize + gcmNonceSize))
        (((rawBody raw).drop (1 + sessionIdSize)).take gcmNonceSize) encKey =
          .ok payload := by
  unfold openFrame
  by_cases verified :
      computeHmac P (rawBody raw) (orHandshakeKey macKey) = rawMac raw
  · cases head : (rawBody raw).head? with
    | none =>
        simp [verified, head, bind, Except.bind, throw, throwThe,
          MonadExceptOf.throw]
    | some value =>
        cases decoded : MessageType.ofCode value with
        | error failure =>
            simp only [verifyHmac_eq_true, verified, not_true_eq_false,
              if_false, bind, Except.bind, pure, Except.pure, head, decoded,
              reduceCtorEq, Option.some.injEq, true_and, false_iff]
            rintro ⟨rfl, _, _⟩
            simp at decoded
        | ok found =>
            have code := MessageType.code_of_ofCode decoded
            subst value
            cases recovered : recoverPayload P
                ((rawBody raw).drop (1 + sessionIdSize + gcmNonceSize))
                (((rawBody raw).drop (1 + sessionIdSize)).take gcmNonceSize)
                encKey with
            | error failure =>
                simp [verified, head, recovered, bind, Except.bind, pure,
                  Except.pure]
            | ok result =>
                simp only [verifyHmac_eq_true, verified, not_true_eq_false,
                  if_false, bind, Except.bind, pure, Except.pure, head,
                  MessageType.ofCode_code, recovered, Except.ok.injEq,
                  Prod.mk.injEq, Option.some.injEq, true_and]
                constructor
                · rintro ⟨rfl, rfl, rfl⟩
                  exact ⟨rfl, rfl, rfl⟩
                · rintro ⟨code, rfl, rfl⟩
                  have decoded := congrArg MessageType.ofCode code
                  exact ⟨by simpa using decoded, rfl, rfl⟩
  · simp [verified, bind, Except.bind, throw, throwThe, MonadExceptOf.throw]

theorem rawBody_append {body mac : Bytes} (size : mac.length = hmacDigestSize) :
    rawBody (body ++ mac) = body := by
  simp [rawBody, size]

theorem rawMac_append {body mac : Bytes} (size : mac.length = hmacDigestSize) :
    rawMac (body ++ mac) = mac := by
  simp [rawMac, size]

/-- A body that was protected, tagged and framed under some keys opens under the
same keys to what it was built from. -/
theorem openFrame_frameBody {P : Primitives} (msgType : MessageType)
    {sessionId payload encPayload nonce : Bytes} {encKey : Option Bytes}
    (macKey : Option Bytes) {urandom : GcmNonce}
    (sidSize : sessionId.length = sessionIdSize)
    (protect : protectPayload P payload encKey urandom =
      .ok (encPayload, nonce)) :
    openFrame P (frameBody msgType sessionId nonce encPayload ++
      computeHmac P (frameBody msgType sessionId nonce encPayload)
        (orHandshakeKey macKey)) encKey macKey =
      .ok (msgType, sessionId, payload) := by
  have nonceSize := protectPayload_nonce_length protect
  rw [openFrame_eq_ok, rawBody_append (computeHmac_length ..),
    rawMac_append (computeHmac_length ..)]
  refine ⟨rfl, rfl, frameBody_sessionId msgType encPayload nonce sidSize, ?_⟩
  rw [frameBody_encPayload msgType encPayload sidSize nonceSize,
    frameBody_nonce msgType encPayload sidSize nonceSize]
  exact recoverPayload_of_protectPayload protect

end VpnTunnel.Crypto
