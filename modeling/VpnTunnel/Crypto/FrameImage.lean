import VpnTunnel.Crypto.FrameRoundTrip

namespace VpnTunnel.Crypto

open VpnTunnel.Foundation

/-! `recv_frame` on any stream that ends with the peer's close: which frames it
accepts, what it takes off the stream, and what it raises. -/

/-- `ConnectionError` and `ValueError` are what the docstring announces. -/
def PyError.Documented : PyError → Prop
  | .connectionError _ | .valueError _ => True
  | _ => False

instance (error : PyError) : Decidable error.Documented :=
  match error with
  | .connectionError _ | .valueError _ => inferInstanceAs (Decidable True)
  | .runtimeError _ | .timeout | .invalidTag | .typeError | .keyError _
  | .indexError | .overflowError | .osError => inferInstanceAs (Decidable False)

/-- The stream starts with a whole frame whose declared length is admitted. -/
structure Declares (stream raw rest : Bytes) : Prop where
  split : stream = packHeader raw.length ++ raw ++ rest
  large : minBody ≤ raw.length
  small : raw.length ≤ maxFrameSize

theorem recvRaw_of_declares {s : Sock} {raw rest : Bytes}
    (declares : Declares s.incoming raw rest) :
    ∃ after, recvRaw s = .ok raw after ∧ after.incoming = rest :=
  reads_recvRaw declares.large declares.small s rest declares.split

theorem recvExactLoop_of_short (n : Nat) (buf : Bytes) (s : Sock)
    (ends : s.ending = .eof) (short : buf.length + s.incoming.length < n) :
    ∃ message after,
      recvExactLoop n buf s = .error (.connectionError message) after ∧
        after.incoming = [] := by
  rw [recvExactLoop, if_pos (by omega)]
  by_cases exhausted : s.incoming = []
  · have empty : recv (n - buf.length) s = .ok [] s := by
      simp [recv, exhausted, ends]
    rw [bind_eq_of_ok empty]
    exact ⟨_, s, rfl, exhausted⟩
  · rw [bind_eq_of_ok (recv_of_nonempty exhausted)]
    have some := List.length_pos_iff.mpr exhausted
    have chunk : s.incoming.take
        (min (n - buf.length) (s.cuts.headD (n - buf.length) + 1)) ≠ [] := by
      rw [Ne, List.take_eq_nil_iff]
      rintro (zero | none)
      · omega
      · exact exhausted none
    rw [if_neg chunk]
    apply recvExactLoop_of_short
    · exact ends
    · simp only [List.length_append, List.length_take, List.length_drop]
      omega
termination_by n - buf.length
decreasing_by
  simp only [List.length_append, List.length_take]
  omega

theorem recv_ending {n : Nat} {s after : Sock} {chunk : Bytes}
    (received : recv n s = .ok chunk after) : after.ending = s.ending := by
  unfold recv at received
  split at received
  · split at received <;> cases received
    rfl
  · cases received
    rfl

theorem recvExactLoop_ending (n : Nat) (buf : Bytes) {s after : Sock}
    {bytes : Bytes} (received : recvExactLoop n buf s = .ok bytes after) :
    after.ending = s.ending := by
  rw [recvExactLoop] at received
  by_cases short : buf.length < n
  · rw [if_pos short] at received
    obtain ⟨chunk, middle, first, rest⟩ := bind_eq_ok.mp received
    split at rest
    · cases rest
    · exact (recvExactLoop_ending n (buf ++ chunk) rest).trans (recv_ending first)
  · rw [if_neg short] at received
    cases received
    rfl
termination_by n - buf.length
decreasing_by
  rename_i nonempty
  have := List.length_pos_iff.mpr nonempty
  simp only [List.length_append]
  omega

theorem recvExact_cases (n : Nat) (s : Sock) (ends : s.ending = .eof) :
    (∃ bytes after, recvExact n s = .ok bytes after ∧ bytes.length = n ∧
      s.incoming = bytes ++ after.incoming ∧ after.ending = .eof) ∨
    ∃ message after, recvExact n s = .error (.connectionError message) after ∧
      after.incoming = [] ∧ s.incoming.length < n := by
  by_cases enough : n ≤ s.incoming.length
  · have size : (s.incoming.take n).length = n := List.length_take_of_le enough
    have reads := reads_recvExact (s.incoming.take n)
    rw [size] at reads
    obtain ⟨after, received, left⟩ :=
      reads s (s.incoming.drop n) (List.take_append_drop n s.incoming).symm
    refine .inl ⟨_, after, received, size, ?_,
      (recvExactLoop_ending n [] received).trans ends⟩
    rw [left, List.take_append_drop]
  · obtain ⟨message, after, failed, empty⟩ :=
      recvExactLoop_of_short n [] s ends (by simpa using enough)
    exact .inr ⟨message, after, failed, empty, Nat.lt_of_not_le enough⟩

theorem packHeader_unpackHeader {header : Bytes}
    (size : header.length = headerSize) :
    packHeader (unpackHeader header) = header := by
  match header, size with
  | [b3, b2, b1, b0], _ =>
      have h3 := b3.toNat_lt
      have h2 := b2.toNat_lt
      have h1 := b1.toNat_lt
      have h0 := b0.toNat_lt
      simp only [packHeader, unpackHeader, List.cons.injEq, and_true]
      refine ⟨?_, ?_, ?_, ?_⟩ <;> apply UInt8.toNat_inj.mp <;>
        rw [UInt8.toNat_ofNat'] <;> omega

/-- What a call has taken off the stream, and that it is no more than the header
and what the header declares. -/
structure TakesDeclared (s after : Sock) : Prop where
  taken : ∃ consumed, s.incoming = consumed ++ after.incoming ∧
    consumed.length ≤
      headerSize + unpackHeader (s.incoming.take headerSize)

theorem recvRaw_of_header {s middle : Sock} {header : Bytes}
    (read : recvExact headerSize s = .ok header middle) :
    recvRaw s =
      if maxFrameSize < unpackHeader header then
        .error (.valueError
          s!"Frame too large: {unpackHeader header} > {maxFrameSize}") middle
      else if unpackHeader header < minBody then
        .error (.valueError
          s!"Frame too small: {unpackHeader header} < {minBody}") middle
      else recvExact (unpackHeader header) middle := by
  unfold recvRaw
  rw [bind_eq_of_ok read]
  by_cases large : maxFrameSize < unpackHeader header
  · rw [if_pos large, if_pos large]
    rfl
  · rw [if_neg large, if_neg large]
    by_cases small : unpackHeader header < minBody
    · rw [if_pos small]
      simp only [if_pos small]
      rfl
    · rw [if_neg small]
      simp only [if_neg small]

theorem recvRaw_cases (s : Sock) (ends : s.ending = .eof) :
    (∃ raw after, recvRaw s = .ok raw after ∧
      Declares s.incoming raw after.incoming) ∨
    ∃ error after, recvRaw s = .error error after ∧ error.Documented ∧
      TakesDeclared s after := by
  rcases recvExact_cases headerSize s ends with
    ⟨header, middle, readHeader, headerSized, split, stillEof⟩ |
    ⟨message, after, failed, empty, short⟩
  · have declared : s.incoming.take headerSize = header := by
      rw [split, ← headerSized, List.take_left]
    have resumed := recvRaw_of_header readHeader
    have takesHeader : TakesDeclared s middle :=
      ⟨header, split, by rw [declared, headerSized]; omega⟩
    by_cases small : unpackHeader header ≤ maxFrameSize
    · by_cases large : minBody ≤ unpackHeader header
      · rcases recvExact_cases (unpackHeader header) middle stillEof with
          ⟨raw, after, -, rawSized, rest, -⟩ |
          ⟨message, after, failed, empty, short⟩
        · have declares : Declares s.incoming raw after.incoming := by
            refine ⟨?_, by omega, by omega⟩
            rw [rawSized, packHeader_unpackHeader headerSized, split, rest,
              List.append_assoc]
          obtain ⟨final, read, left⟩ := recvRaw_of_declares declares
          exact .inl ⟨raw, final, read, left ▸ declares⟩
        · refine .inr ⟨.connectionError message, after, ?_, trivial,
            s.incoming, ?_, ?_⟩
          · rw [resumed, if_neg (by omega), if_neg (by omega)]
            exact failed
          · rw [empty, List.append_nil]
          · rw [declared, split, List.length_append, headerSized]
            omega
      · rw [if_neg (by omega), if_pos (by omega)] at resumed
        exact .inr ⟨_, middle, resumed, trivial, takesHeader⟩
    · rw [if_pos (by omega)] at resumed
      exact .inr ⟨_, middle, resumed, trivial, takesHeader⟩
  · refine .inr ⟨.connectionError message, after, bind_eq_of_error failed,
      trivial, s.incoming, ?_, ?_⟩
    · rw [empty, List.append_nil]
    · omega

/-! The body of an accepted frame. -/

/-- A body that is long enough and starts with a type's code has all fields. -/
theorem frameBody_of_slices {body : Bytes} {msgType : MessageType}
    (head : body.head? = some msgType.code) :
    body = frameBody msgType ((body.drop 1).take sessionIdSize)
      ((body.drop (1 + sessionIdSize)).take gcmNonceSize)
      (body.drop (1 + sessionIdSize + gcmNonceSize)) := by
  cases body with
  | nil => cases head
  | cons code rest =>
      cases head
      have fields : rest.take sessionIdSize ++
          (rest.drop sessionIdSize).take gcmNonceSize ++
            (rest.drop sessionIdSize).drop gcmNonceSize = rest := by
        rw [List.append_assoc, List.take_append_drop, List.take_append_drop]
      rw [List.drop_drop] at fields
      rw [Nat.add_assoc, Nat.add_comm 1, Nat.add_comm 1]
      exact congrArg (msgType.code :: ·) fields.symm

def rawSessionId (raw : Bytes) : Bytes :=
  ((rawBody raw).drop 1).take sessionIdSize

def rawNonce (raw : Bytes) : Bytes :=
  ((rawBody raw).drop (1 + sessionIdSize)).take gcmNonceSize

def rawPayload (raw : Bytes) : Bytes :=
  (rawBody raw).drop (1 + sessionIdSize + gcmNonceSize)

/-- The HMAC is right and the type byte is one of the enumeration. -/
structure Verified (P : Primitives) (macKey : Option Bytes) (raw : Bytes)
    (msgType : MessageType) : Prop where
  mac : computeHmac P (rawBody raw) (orHandshakeKey macKey) = rawMac raw
  head : (rawBody raw).head? = some msgType.code

section

variable {P : Primitives} {raw : Bytes} {encKey macKey : Option Bytes}
  {msgType : MessageType}

theorem rawBody_length (large : minBody ≤ raw.length) :
    1 + sessionIdSize + gcmNonceSize ≤ (rawBody raw).length := by
  simp only [minBody, sessionIdSize, gcmNonceSize, hmacDigestSize] at large
  simp only [rawBody, List.length_take, sessionIdSize, gcmNonceSize,
    hmacDigestSize]
  omega

theorem rawSessionId_length (large : minBody ≤ raw.length) :
    (rawSessionId raw).length = sessionIdSize := by
  have := rawBody_length large
  rw [rawSessionId, List.length_take_of_le]
  rw [List.length_drop]
  omega

theorem rawNonce_length (large : minBody ≤ raw.length) :
    (rawNonce raw).length = gcmNonceSize := by
  have := rawBody_length large
  rw [rawNonce, List.length_take_of_le]
  rw [List.length_drop]
  omega

theorem Verified.raw_eq (verified : Verified P macKey raw msgType) :
    raw = frameBody msgType (rawSessionId raw) (rawNonce raw) (rawPayload raw) ++
      computeHmac P
        (frameBody msgType (rawSessionId raw) (rawNonce raw) (rawPayload raw))
        (orHandshakeKey macKey) := by
  rw [rawSessionId, rawNonce, rawPayload, ← frameBody_of_slices verified.head,
    verified.mac, rawBody, rawMac, List.take_append_drop]

theorem openFrame_cases (P : Primitives) (encKey macKey : Option Bytes)
    (large : minBody ≤ raw.length) :
    (∃ error, openFrame P raw encKey macKey = .error error ∧
      error.Documented ∧ ∀ msgType, ¬ Verified P macKey raw msgType) ∨
    ∃ msgType, Verified P macKey raw msgType ∧
      openFrame P raw encKey macKey =
        (recoverPayload P (rawPayload raw) (rawNonce raw) encKey).map
          fun payload => (msgType, rawSessionId raw, payload) := by
  by_cases mac :
      computeHmac P (rawBody raw) (orHandshakeKey macKey) = rawMac raw
  · have size := rawBody_length large
    cases head : (rawBody raw).head? with
    | none =>
        rw [List.head?_eq_none_iff] at head
        rw [head] at size
        exact absurd size (by decide)
    | some value =>
        cases decoded : MessageType.ofCode value with
        | error failure =>
            refine .inl ⟨failure, ?_, ?_, ?_⟩
            · simp [openFrame, mac, head, decoded, bind, Except.bind, pure,
                Except.pure]
            · unfold MessageType.ofCode at decoded
              split_ifs at decoded
              cases decoded
              trivial
            · intro msgType verified
              have same := head.symm.trans verified.head
              cases same
              simp at decoded
        | ok msgType =>
            have code := MessageType.code_of_ofCode decoded
            subst code
            refine .inr ⟨msgType, ⟨mac, head⟩, ?_⟩
            cases recovered :
                recoverPayload P (rawPayload raw) (rawNonce raw) encKey <;>
              rw [rawPayload, rawNonce] at recovered <;>
              simp [openFrame, mac, head, recovered, rawSessionId, bind,
                Except.bind, pure, Except.pure, Except.map]
  · refine .inl
      ⟨.valueError "HMAC verification failed — frame may be tampered", ?_, ?_,
        fun msgType verified => mac verified.mac⟩
    · simp [openFrame, mac, bind, Except.bind, throw, throwThe,
        MonadExceptOf.throw]
    · trivial

end

/-! The frames that `recv_frame` does not treat as announced. -/

/-- Decryption under AES-GCM accepts nothing but what encryption returns. -/
def Primitives.Exact (P : Primitives) : Prop :=
  ∀ key nonce ciphertext plaintext, key.length = aesKeySize →
    nonce.length = gcmNonceSize →
    P.gcmDecrypt key nonce ciphertext = some plaintext →
    ciphertext = P.gcmEncrypt key nonce plaintext

/-- In cleartext the nonce field is not looked at, and a ciphertext that AES-GCM
rejects raises `InvalidTag`. -/
def Mishandled (P : Primitives) (encKey : Option Bytes) (raw : Bytes) : Prop :=
  match encKey with
  | none => rawNonce raw ≠ List.replicate gcmNonceSize 0
  | some key => P.gcmDecrypt key (rawNonce raw) (rawPayload raw) = none

section

variable {P : Primitives} {raw : Bytes} {encKey macKey : Option Bytes}
  {msgType : MessageType}

theorem recoverPayload_cases (large : minBody ≤ raw.length)
    (keySize : ∀ key ∈ encKey, key.length = aesKeySize) :
    (∃ payload, recoverPayload P (rawPayload raw) (rawNonce raw) encKey =
      .ok payload) ∨
    recoverPayload P (rawPayload raw) (rawNonce raw) encKey =
      .error .invalidTag ∧ Mishandled P encKey raw := by
  cases encKey with
  | none => exact .inl ⟨rawPayload raw, rfl⟩
  | some key =>
      have size := keySize key rfl
      have nonceSize := rawNonce_length large
      cases decrypted : P.gcmDecrypt key (rawNonce raw) (rawPayload raw) with
      | none =>
          refine .inr ⟨?_, decrypted⟩
          simp [recoverPayload, decryptPayload, size, nonceSize, decrypted, bind,
            Except.bind, throw, throwThe, MonadExceptOf.throw]
      | some payload =>
          refine .inl ⟨payload, ?_⟩
          simp [recoverPayload, decryptPayload, size, nonceSize, decrypted, bind,
            Except.bind, pure, Except.pure]

/-- An accepted frame is what `send_frame` writes, unless it is mishandled. -/
theorem protectPayload_of_recoverPayload (exact : P.Exact)
    (large : minBody ≤ raw.length)
    (keySize : ∀ key ∈ encKey, key.length = aesKeySize)
    (handled : ¬ Mishandled P encKey raw) {payload : Bytes}
    (recovered : recoverPayload P (rawPayload raw) (rawNonce raw) encKey =
      .ok payload) :
    protectPayload P payload encKey ⟨rawNonce raw, rawNonce_length large⟩ =
      .ok (rawPayload raw, rawNonce raw) := by
  cases encKey with
  | none =>
      have zero : rawNonce raw = List.replicate gcmNonceSize 0 :=
        Decidable.not_not.mp handled
      cases recovered
      exact congrArg (fun nonce => Except.ok (rawPayload raw, nonce)) zero.symm
  | some key =>
      have size := keySize key rfl
      have nonceSize := rawNonce_length large
      cases decrypted : P.gcmDecrypt key (rawNonce raw) (rawPayload raw) with
      | none => exact absurd decrypted handled
      | some plaintext =>
          simp [recoverPayload, decryptPayload, size, nonceSize, decrypted, bind,
            Except.bind, pure, Except.pure] at recovered
          subst recovered
          rw [protectPayload, encryptPayload_of_length size,
            ← exact key (rawNonce raw) (rawPayload raw) plaintext size nonceSize
              decrypted]

theorem buildFrame_of_verified (verified : Verified P macKey raw msgType)
    (large : minBody ≤ raw.length) (small : raw.length ≤ maxFrameSize)
    {payload : Bytes} {urandom : GcmNonce}
    (protect : protectPayload P payload encKey urandom =
      .ok (rawPayload raw, rawNonce raw)) :
    buildFrame P msgType (rawSessionId raw) payload encKey macKey urandom =
      .ok (packHeader raw.length ++ raw) := by
  have whole := verified.raw_eq
  have size : raw.length =
      (frameBody msgType (rawSessionId raw) (rawNonce raw)
        (rawPayload raw)).length + hmacDigestSize := by
    have lengths := congrArg List.length whole
    rwa [List.length_append, computeHmac_length] at lengths
  refine buildFrame_eq_ok.mpr ⟨rawSessionId_length large, rawPayload raw,
    rawNonce raw, protect, size ▸ small, ?_⟩
  rw [← size, List.append_assoc, ← whole]

end

/-- `recv_frame` returns exactly what `send_frame` can write under these keys and
takes exactly that, and on any other stream it fails as announced. -/
structure AcceptsImage (P : Primitives) (encKey macKey : Option Bytes)
    (s : Sock) : Prop where
  accepts : ∀ msgType sessionId payload,
    (∃ after,
      recvFrame P encKey macKey s = .ok (msgType, sessionId, payload) after) ↔
    ∃ urandom frame,
      buildFrame P msgType sessionId payload encKey macKey urandom =
        .ok frame ∧ frame <+: s.incoming
  takes : ∀ msgType sessionId payload after,
    recvFrame P encKey macKey s = .ok (msgType, sessionId, payload) after →
    ∀ urandom frame,
      buildFrame P msgType sessionId payload encKey macKey urandom =
        .ok frame → frame <+: s.incoming → s.incoming = frame ++ after.incoming
  raises : ∀ error after, recvFrame P encKey macKey s = .error error after →
    error.Documented ∧ TakesDeclared s after

section

variable {P : Primitives} {encKey macKey : Option Bytes} {s : Sock}

theorem recvFrame_of_prefix {msgType : MessageType}
    {sessionId payload frame : Bytes} {urandom : GcmNonce}
    (built : buildFrame P msgType sessionId payload encKey macKey urandom =
      .ok frame) (starts : frame <+: s.incoming) :
    ∃ after, recvFrame P encKey macKey s =
        .ok (msgType, sessionId, payload) after ∧
      s.incoming = frame ++ after.incoming := by
  obtain ⟨rest, split⟩ := starts
  obtain ⟨after, received, left⟩ :=
    reads_recvFrame_of_buildFrame built s rest split.symm
  exact ⟨after, received, by rw [left, split]⟩

theorem takes_of_recvFrame {msgType : MessageType}
    {sessionId payload : Bytes} {after : Sock}
    (received : recvFrame P encKey macKey s =
      .ok (msgType, sessionId, payload) after) {urandom : GcmNonce}
    {frame : Bytes}
    (built : buildFrame P msgType sessionId payload encKey macKey urandom =
      .ok frame) (starts : frame <+: s.incoming) :
    s.incoming = frame ++ after.incoming := by
  obtain ⟨other, same, split⟩ := recvFrame_of_prefix built starts
  rw [received] at same
  cases same
  exact split

theorem recvFrame_of_raw {raw : Bytes} {after : Sock}
    (read : recvRaw s = .ok raw after) :
    recvFrame P encKey macKey s =
      match openFrame P raw encKey macKey with
      | .ok frame => .ok frame after
      | .error error => .error error after := by
  rw [recvFrame, bind_eq_of_ok read]
  cases openFrame P raw encKey macKey <;> rfl

theorem Declares.takes {raw : Bytes} {after : Sock}
    (declares : Declares s.incoming raw after.incoming) :
    TakesDeclared s after := by
  have size : (packHeader raw.length).length = headerSize := rfl
  refine ⟨packHeader raw.length ++ raw, declares.split, Nat.le_of_eq ?_⟩
  rw [declares.split, List.append_assoc, ← size, List.take_left,
    List.length_append,
    unpackHeader_packHeader
      (Nat.lt_of_le_of_lt declares.small maxFrameSize_lt)]

theorem Declares.unique {raw rest other otherRest : Bytes}
    (declares : Declares s.incoming raw rest)
    (also : Declares s.incoming other otherRest) : other = raw := by
  obtain ⟨after, read, -⟩ := recvRaw_of_declares declares
  obtain ⟨otherAfter, otherRead, -⟩ := recvRaw_of_declares also
  rw [read] at otherRead
  cases otherRead
  rfl

/-- The nonce field of a frame that `send_frame` has written. -/
theorem Declares.protected {raw rest : Bytes}
    (declares : Declares s.incoming raw rest) {msgType : MessageType}
    {sessionId payload frame : Bytes} {urandom : GcmNonce}
    (built : buildFrame P msgType sessionId payload encKey macKey urandom =
      .ok frame) (starts : frame <+: s.incoming) :
    ∃ encPayload, protectPayload P payload encKey urandom =
      .ok (encPayload, rawNonce raw) := by
  obtain ⟨sidSize, encPayload, nonce, protect, fits, rfl⟩ :=
    buildFrame_eq_ok.mp built
  have nonceSize := protectPayload_nonce_length protect
  obtain ⟨after, split⟩ := starts
  have also : Declares s.incoming
      (frameBody msgType sessionId nonce encPayload ++
        computeHmac P (frameBody msgType sessionId nonce encPayload)
          (orHandshakeKey macKey)) after := by
    refine ⟨?_, ?_, ?_⟩
    · rw [← split]
      simp
    · simp [minBody, sidSize, nonceSize]
    · simpa using fits
  have same := declares.unique also
  refine ⟨encPayload, ?_⟩
  rw [protect, rawNonce, ← same, rawBody_append (computeHmac_length ..),
    frameBody_nonce msgType encPayload sidSize nonceSize]

theorem acceptsImage_of_error {error : PyError} {after : Sock}
    (failed : recvFrame P encKey macKey s = .error error after)
    (documented : error.Documented) (taken : TakesDeclared s after) :
    AcceptsImage P encKey macKey s where
  accepts := by
    intro msgType sessionId payload
    constructor
    · rintro ⟨other, received⟩
      rw [failed] at received
      cases received
    · rintro ⟨urandom, frame, built, starts⟩
      obtain ⟨other, received, -⟩ := recvFrame_of_prefix built starts
      exact ⟨other, received⟩
  takes := by
    intro msgType sessionId payload other received
    rw [failed] at received
    cases received
  raises := by
    intro otherError other raised
    rw [failed] at raised
    cases raised
    exact ⟨documented, taken⟩

theorem acceptsImage_of_ok {msgType : MessageType}
    {sessionId payload frame : Bytes} {after : Sock} {urandom : GcmNonce}
    (received : recvFrame P encKey macKey s =
      .ok (msgType, sessionId, payload) after)
    (built : buildFrame P msgType sessionId payload encKey macKey urandom =
      .ok frame) (starts : frame <+: s.incoming) :
    AcceptsImage P encKey macKey s where
  accepts := by
    intro otherType otherId otherPayload
    constructor
    · rintro ⟨other, same⟩
      rw [received] at same
      cases same
      exact ⟨urandom, frame, built, starts⟩
    · rintro ⟨otherUrandom, otherFrame, otherBuilt, otherStarts⟩
      obtain ⟨other, same, -⟩ := recvFrame_of_prefix otherBuilt otherStarts
      exact ⟨other, same⟩
  takes := by
    intro otherType otherId otherPayload other same otherUrandom otherFrame
    exact takes_of_recvFrame same
  raises := by
    intro error other raised
    rw [received] at raised
    cases raised

end

section

variable {P : Primitives} {encKey macKey : Option Bytes} {s : Sock}

theorem recvFrame_of_opened {raw : Bytes} {msgType : MessageType} {after : Sock}
    (read : recvRaw s = .ok raw after)
    (opened : openFrame P raw encKey macKey =
      (recoverPayload P (rawPayload raw) (rawNonce raw) encKey).map
        fun payload => (msgType, rawSessionId raw, payload)) :
    recvFrame P encKey macKey s =
      match recoverPayload P (rawPayload raw) (rawNonce raw) encKey with
      | .ok payload => .ok (msgType, rawSessionId raw, payload) after
      | .error error => .error error after := by
  rw [recvFrame_of_raw read, opened]
  cases recoverPayload P (rawPayload raw) (rawNonce raw) encKey <;> rfl

theorem Verified.opened {raw : Bytes} {msgType : MessageType}
    (verified : Verified P macKey raw msgType) (large : minBody ≤ raw.length) :
    openFrame P raw encKey macKey =
      (recoverPayload P (rawPayload raw) (rawNonce raw) encKey).map
        fun payload => (msgType, rawSessionId raw, payload) := by
  rcases openFrame_cases P encKey macKey large with
    ⟨error, failed, documented, unverified⟩ | ⟨other, also, opened⟩
  · exact absurd verified (unverified msgType)
  · have same : other.code = msgType.code :=
      Option.some.inj (also.head.symm.trans verified.head)
    have decoded := MessageType.ofCode_code other
    rw [same, MessageType.ofCode_code] at decoded
    cases decoded
    exact opened

/-- A mishandled frame is one that `send_frame` does not write, or it raises
`InvalidTag`. -/
theorem not_mishandled_of_acceptsImage (image : AcceptsImage P encKey macKey s)
    (keySize : ∀ key ∈ encKey, key.length = aesKeySize)
    {raw rest : Bytes} {msgType : MessageType}
    (declares : Declares s.incoming raw rest)
    (verified : Verified P macKey raw msgType) : ¬ Mishandled P encKey raw := by
  intro mishandled
  have large := declares.large
  obtain ⟨after, read, left⟩ := recvRaw_of_declares declares
  have opened : openFrame P raw encKey macKey = _ := verified.opened large
  have outcome := recvFrame_of_opened read opened
  rcases recoverPayload_cases large keySize with
    ⟨payload, recovered⟩ | ⟨rejected, -⟩
  · rw [recovered] at outcome
    obtain ⟨urandom, frame, built, starts⟩ :=
      (image.accepts _ _ _).mp ⟨after, outcome⟩
    obtain ⟨encPayload, protect⟩ := declares.protected built starts
    cases encKey with
    | none =>
        have fields := Prod.mk.inj (Except.ok.inj protect)
        exact mishandled fields.2.symm
    | some key =>
        have size := keySize key rfl
        have nonceSize := rawNonce_length large
        have rejected : P.gcmDecrypt key (rawNonce raw) (rawPayload raw) = none :=
          mishandled
        simp [recoverPayload, decryptPayload, size, nonceSize, rejected, bind,
          Except.bind, throw, throwThe, MonadExceptOf.throw] at recovered
  · rw [rejected] at outcome
    exact (image.raises _ _ outcome).1

end

/-- `recv_frame` accepts the image of `send_frame` and fails as announced exactly
on the streams that do not start with a verified frame that it mishandles. -/
theorem recv_frame_accepts_image (P : Primitives) (exact : P.Exact)
    (encKey macKey : Option Bytes)
    (keySize : ∀ key ∈ encKey, key.length = aesKeySize) (s : Sock)
    (ends : s.ending = .eof) :
    AcceptsImage P encKey macKey s ↔
      ∀ raw rest msgType, Declares s.incoming raw rest →
        Verified P macKey raw msgType → ¬ Mishandled P encKey raw := by
  constructor
  · intro image raw rest msgType declares verified
    exact not_mishandled_of_acceptsImage image keySize declares verified
  · intro handled
    rcases recvRaw_cases s ends with
      ⟨raw, after, read, declares⟩ | ⟨error, after, failed, documented, taken⟩
    · have large := declares.large
      rcases openFrame_cases P encKey macKey large with
        ⟨error, failed, documented, -⟩ | ⟨msgType, verified, opened⟩
      · have raised : recvFrame P encKey macKey s = .error error after := by
          rw [recvFrame_of_raw read, failed]
        exact acceptsImage_of_error raised documented declares.takes
      · have notMishandled := handled raw _ msgType declares verified
        have outcome := recvFrame_of_opened read opened
        rcases recoverPayload_cases large keySize with
          ⟨payload, recovered⟩ | ⟨-, mishandled⟩
        · rw [recovered] at outcome
          have protect := protectPayload_of_recoverPayload exact large keySize
            notMishandled recovered
          exact acceptsImage_of_ok outcome
            (buildFrame_of_verified verified large declares.small protect)
            ⟨after.incoming, declares.split.symm⟩
        · exact absurd mishandled notMishandled
    · exact acceptsImage_of_error (bind_eq_of_error failed) documented taken

/-! Primitives with an exact decryption, to compute runs with. -/

/-- `Primitives.transparent` with a decryption that looks at the blank tag. -/
def Primitives.checked : Primitives where
  hmac := Primitives.transparent.hmac
  gcmEncrypt _ _ plaintext := plaintext ++ List.replicate gcmTagSize 0
  gcmDecrypt _ _ ciphertext :=
    if List.replicate gcmTagSize 0 <:+ ciphertext then
      some (ciphertext.take (ciphertext.length - gcmTagSize))
    else none
  hmac_length := Primitives.transparent.hmac_length
  gcmEncrypt_length := Primitives.transparent.gcmEncrypt_length
  gcmDecrypt_gcmEncrypt := by
    intro key nonce plaintext _ _
    simp

theorem Primitives.checked_exact : Primitives.checked.Exact := by
  intro key nonce ciphertext plaintext _ _ decrypted
  simp only [Primitives.checked] at decrypted ⊢
  split at decrypted
  next tagged =>
      obtain ⟨text, rfl⟩ := tagged
      cases decrypted
      simp
  next => cases decrypted

def sampleEncKey : Bytes := List.replicate aesKeySize 7

/-- All of a `DATA_REQUEST` frame but its header, under the handshake's key. -/
def sampleRaw (nonce encPayload : Bytes) : Bytes :=
  let body := frameBody .dataRequest (List.replicate sessionIdSize 1) nonce
    encPayload
  body ++ computeHmac .checked body handshakeHmacKey

def sampleStream (raw : Bytes) : Sock where
  incoming := packHeader raw.length ++ raw
  cuts := []
  ending := .eof
  outgoing := []

/-- A frame with the right HMAC, a nonce that is not zero and a payload with no
room for a tag. -/
def strayRaw : Bytes := sampleRaw (List.replicate gcmNonceSize 2) [3]

theorem declares_sample {raw : Bytes} (large : minBody ≤ raw.length)
    (small : raw.length ≤ maxFrameSize) :
    Declares (sampleStream raw).incoming raw [] :=
  ⟨(List.append_nil _).symm, large, small⟩

theorem verified_stray : Verified .checked none strayRaw .dataRequest where
  mac := by decide
  head := by decide

/-- A frame that `send_frame` writes in cleartext. -/
theorem recv_frame_accepts_image_plain :
    let raw := sampleRaw (List.replicate gcmNonceSize 0) [3]
    AcceptsImage .checked none none (sampleStream raw) := by
  refine (recv_frame_accepts_image .checked Primitives.checked_exact none none
    (by simp) _ rfl).mpr ?_
  intro raw rest msgType declares _ mishandled
  have same := (declares_sample (by decide) (by decide)).unique declares
  subst same
  exact mishandled (by decide)

/-- The stray frame raises `InvalidTag` where a key is set, and is accepted where
none is. -/
theorem recv_frame_not_image :
    ¬ AcceptsImage .checked (some sampleEncKey) none (sampleStream strayRaw) ∧
      ¬ AcceptsImage .checked none none (sampleStream strayRaw) := by
  have declares : Declares (sampleStream strayRaw).incoming strayRaw [] :=
    declares_sample (by decide) (by decide)
  refine ⟨fun image => ?_, fun image => ?_⟩
  · exact not_mishandled_of_acceptsImage image (by simp [sampleEncKey]) declares
      verified_stray (by decide : Primitives.checked.gcmDecrypt _ _ _ = none)
  · exact not_mishandled_of_acceptsImage image (by simp) declares verified_stray
      (by decide : rawNonce strayRaw ≠ _)

end VpnTunnel.Crypto
