import VpnTunnel.Foundation.Reader
import VpnTunnel.Crypto.FrameSpec

namespace VpnTunnel.Crypto

open VpnTunnel.Foundation

/-! `recv_exact` under every cutting of the stream. -/

theorem recv_of_nonempty {n : Nat} {s : Sock} (held : s.incoming ≠ []) :
    recv n s = .ok (s.incoming.take (min n (s.cuts.headD n + 1)))
      { s with
        incoming := s.incoming.drop (min n (s.cuts.headD n + 1))
        cuts := s.cuts.tail } := by
  simp [recv, held]

theorem reads_recvExactLoop (n : Nat) (buf missing : Bytes)
    (size : buf.length + missing.length = n) :
    Reads Sock.incoming (recvExactLoop n buf) missing (buf ++ missing) := by
  intro s rest held
  rw [recvExactLoop]
  by_cases short : buf.length < n
  · have room : 0 < missing.length := by omega
    have some : missing ≠ [] := List.ne_nil_of_length_pos room
    have nonempty : s.incoming ≠ [] := by
      rw [held]
      exact List.append_ne_nil_of_left_ne_nil some rest
    simp only [if_pos short]
    rw [bind_eq_of_ok (recv_of_nonempty nonempty)]
    -- The chunk is a non-empty prefix of the missing bytes.
    generalize taken : min (n - buf.length)
      (s.cuts.headD (n - buf.length) + 1) = k
    have positive : 0 < k := by omega
    have within : k ≤ missing.length := by omega
    have chunk : s.incoming.take k = missing.take k := by
      rw [held, List.take_append_of_le_length within]
    have left : s.incoming.drop k = missing.drop k ++ rest := by
      rw [held, List.drop_append_of_le_length within]
    have chunkNonempty : missing.take k ≠ [] := by
      rw [Ne, List.take_eq_nil_iff]
      rintro (zero | empty)
      · omega
      · exact some empty
    rw [chunk, left, if_neg chunkNonempty]
    have step := reads_recvExactLoop n (buf ++ missing.take k)
      (missing.drop k) (by simp; omega)
    obtain ⟨final, ran, remains⟩ := step
      { s with incoming := missing.drop k ++ rest, cuts := s.cuts.tail } rest rfl
    refine ⟨final, ?_, remains⟩
    rw [ran, List.append_assoc, List.take_append_drop]
  · have none : missing = [] := List.length_eq_zero_iff.mp (by omega)
    subst none
    simp only [if_neg short]
    exact ⟨s, by simp [pure, EStateM.pure], by simpa using held⟩
termination_by n - buf.length
decreasing_by
  simp only [List.length_append, List.length_take]
  omega

theorem reads_recvExact (bytes : Bytes) :
    Reads Sock.incoming (recvExact bytes.length) bytes bytes := by
  have whole := reads_recvExactLoop bytes.length [] bytes (by simp)
  simpa [recvExact] using whole

/-! The length header. -/

@[simp] theorem packHeader_length (n : Nat) :
    (packHeader n).length = headerSize := rfl

theorem unpackHeader_packHeader {n : Nat} (fits : n < 2 ^ 32) :
    unpackHeader (packHeader n) = n := by
  simp only [packHeader, unpackHeader, UInt8.toNat_ofNat']
  omega

theorem maxFrameSize_lt : maxFrameSize < 2 ^ 32 := by decide

theorem reads_recvRaw {raw : Bytes} (large : minBody ≤ raw.length)
    (small : raw.length ≤ maxFrameSize) :
    Reads Sock.incoming recvRaw (packHeader raw.length ++ raw) raw := by
  have unpack : unpackHeader (packHeader raw.length) = raw.length :=
    unpackHeader_packHeader (Nat.lt_of_le_of_lt small maxFrameSize_lt)
  unfold recvRaw
  have header : Reads Sock.incoming (recvExact headerSize)
      (packHeader raw.length) (packHeader raw.length) :=
    reads_recvExact (packHeader raw.length)
  refine header.bind ?_
  simp only [unpack, gt_iff_lt, Nat.not_lt.mpr small, Nat.not_lt.mpr large,
    if_false]
  exact Reads.nil_bind (Reads.pure _)
    (Reads.nil_bind (Reads.pure _) (reads_recvExact raw))

/-- Whatever `send_frame` can write, `recv_frame` under the same keys reads
back, and takes no byte more. -/
theorem reads_recvFrame_of_buildFrame {P : Primitives} {msgType : MessageType}
    {sessionId payload frame : Bytes} {encKey macKey : Option Bytes}
    {urandom : GcmNonce}
    (built : buildFrame P msgType sessionId payload encKey macKey urandom =
      .ok frame) :
    Reads Sock.incoming (recvFrame P encKey macKey) frame
      (msgType, sessionId, payload) := by
  obtain ⟨sidSize, encPayload, nonce, protect, fits, rfl⟩ :=
    buildFrame_eq_ok.mp built
  have nonceSize := protectPayload_nonce_length protect
  have opened := openFrame_frameBody msgType macKey sidSize protect
  have rawSize : (frameBody msgType sessionId nonce encPayload ++
      computeHmac P (frameBody msgType sessionId nonce encPayload)
        (orHandshakeKey macKey)).length =
      (frameBody msgType sessionId nonce encPayload).length +
        hmacDigestSize := by simp
  rw [List.append_assoc, ← rawSize]
  refine Reads.bind_nil (reads_recvRaw ?_ ?_) (Reads.ofExcept opened)
  · rw [rawSize]
    simp [minBody, sidSize, nonceSize]
  · rw [rawSize]
    exact fits

theorem recvFrame_of_exhausted {P : Primitives} {encKey macKey : Option Bytes}
    {s : Sock} (exhausted : s.incoming = []) :
    ∃ failure, recvFrame P encKey macKey s = .error failure s := by
  have header : ∃ failure, recvExact headerSize s = .error failure s := by
    rw [recvExact, recvExactLoop, if_pos (by decide)]
    cases ends : s.ending with
    | eof =>
        have empty : recv (headerSize - ([] : Bytes).length) s = .ok [] s := by
          simp [recv, exhausted, ends]
        rw [bind_eq_of_ok empty]
        exact ⟨_, rfl⟩
    | timeout =>
        have failed : recv (headerSize - ([] : Bytes).length) s =
            .error .timeout s := by
          simp [recv, exhausted, ends]
        exact ⟨_, bind_eq_of_error failed⟩
    | reset =>
        have failed : recv (headerSize - ([] : Bytes).length) s =
            .error (.connectionError "Connection reset by peer") s := by
          simp [recv, exhausted, ends]
        exact ⟨_, bind_eq_of_error failed⟩
  obtain ⟨failure, failed⟩ := header
  have raw : recvRaw s = .error failure s := bind_eq_of_error failed
  exact ⟨failure, bind_eq_of_error raw⟩

/-! A sequence of `send_frame` calls on one socket, each with its own handler
for the exceptions it raises. -/

structure SendCall where
  msgType : MessageType
  sessionId : Bytes
  payload : Bytes
  urandom : GcmNonce

namespace SendCall

def send (P : Primitives) (keys : Option (Bytes × Bytes)) (call : SendCall) :
    SockM Unit :=
  sendFrame P call.msgType call.sessionId call.payload (keys.map Prod.fst)
    (keys.map Prod.snd) call.urandom

/-- The argument triple, which is also what `recv_frame` returns. -/
def message (call : SendCall) : MessageType × Bytes × Bytes :=
  (call.msgType, call.sessionId, call.payload)

/-- The arguments have the sizes that `send_frame` asks for. -/
def Sendable (keys : Option (Bytes × Bytes)) (call : SendCall) : Prop :=
  call.sessionId.length = sessionIdSize ∧
    (∀ encKey ∈ keys.map Prod.fst, encKey.length = aesKeySize) ∧
    minBody + (call.payload.length + tagSize (keys.map Prod.fst)) ≤ maxFrameSize

instance decidableSendable (keys : Option (Bytes × Bytes)) (call : SendCall) :
    Decidable (call.Sendable keys) :=
  inferInstanceAs (Decidable (_ ∧ _ ∧ _))

theorem send_cases (P : Primitives) (keys : Option (Bytes × Bytes))
    (call : SendCall) :
    (call.Sendable keys ∧ ∃ frame, buildFrame P call.msgType call.sessionId call.payload
        (keys.map Prod.fst) (keys.map Prod.snd) call.urandom = .ok frame ∧
      ∀ s, call.send P keys s =
        .ok () { s with outgoing := s.outgoing ++ frame }) ∨
    (¬call.Sendable keys ∧
      ∃ message, ∀ s, call.send P keys s = .error (.valueError message) s) := by
  cases built : buildFrame P call.msgType call.sessionId call.payload
      (keys.map Prod.fst) (keys.map Prod.snd) call.urandom with
  | ok frame =>
      refine .inl ⟨exists_buildFrame_iff.mp ⟨frame, built⟩, frame, rfl, fun s => ?_⟩
      rw [send, sendFrame, built]
      rfl
  | error failure =>
      obtain ⟨message, rfl⟩ := buildFrame_error built
      refine .inr ⟨fun sendable => ?_, message, fun s => ?_⟩
      · obtain ⟨frame, other⟩ := exists_buildFrame_iff.mpr sendable
        rw [built] at other
        cases other
      · rw [send, sendFrame, built]
        rfl

end SendCall

/-- Runs the calls and collects the arguments of those that did not raise. -/
def sendAll (P : Primitives) (keys : Option (Bytes × Bytes)) :
    List SendCall → Sock → List (MessageType × Bytes × Bytes) × Sock
  | [], s => ([], s)
  | call :: rest, s =>
      match call.send P keys s with
      | .ok () next =>
          let (sent, final) := sendAll P keys rest next
          (call.message :: sent, final)
      | .error _ next => sendAll P keys rest next

/-- The frames of the successful calls, each of a declared length that the
header can hold and `recv_frame` admits. -/
theorem sendAll_frames (P : Primitives) (keys : Option (Bytes × Bytes))
    (calls : List SendCall) (s : Sock) :
    ∃ frames : List Bytes,
      (sendAll P keys calls s).2.outgoing = s.outgoing ++ frames.flatten ∧
      (∀ frame ∈ frames, ∃ totalLen, totalLen ≤ maxFrameSize ∧
        frame.length = headerSize + totalLen ∧
        unpackHeader (frame.take headerSize) = totalLen) ∧
      List.Forall₂ (Reads Sock.incoming
          (recvFrame P (keys.map Prod.fst) (keys.map Prod.snd)))
        frames (sendAll P keys calls s).1 := by
  induction calls generalizing s with
  | nil => exact ⟨[], by simp [sendAll], by simp, .nil⟩
  | cons call rest ih =>
      rcases SendCall.send_cases P keys call with
        ⟨-, frame, built, sent⟩ | ⟨-, message, raised⟩
      · obtain ⟨frames, written, sizes, readable⟩ :=
          ih { s with outgoing := s.outgoing ++ frame }
        simp only [sendAll, sent s]
        refine ⟨frame :: frames, ?_, ?_, .cons ?_ readable⟩
        · rw [written, List.flatten_cons, List.append_assoc]
        · obtain ⟨_, _, _, _, fits, rfl⟩ := buildFrame_eq_ok.mp built
          intro piece member
          rcases List.mem_cons.mp member with rfl | member
          · refine ⟨_, fits, by simp, ?_⟩
            rw [List.append_assoc,
              List.take_append_of_le_length (by simp), ← packHeader_length,
              List.take_length]
            exact unpackHeader_packHeader
              (Nat.lt_of_le_of_lt fits maxFrameSize_lt)
          · exact sizes piece member
        · exact reads_recvFrame_of_buildFrame built
      · simp only [sendAll, raised s]
        exact ih s

/-- The calls that succeed are those with arguments of the right sizes. -/
theorem sendAll_messages (P : Primitives) (keys : Option (Bytes × Bytes))
    (calls : List SendCall) (s : Sock) :
    (sendAll P keys calls s).1 =
      (calls.filter fun call => decide (call.Sendable keys)).map SendCall.message := by
  induction calls generalizing s with
  | nil => rfl
  | cons call rest ih =>
      rcases SendCall.send_cases P keys call with
        ⟨sendable, frame, -, sent⟩ | ⟨unsendable, message, raised⟩
      · rw [List.filter_cons, if_pos (decide_eq_true sendable), List.map_cons,
          ← ih { s with outgoing := s.outgoing ++ frame }]
        simp only [sendAll, sent s]
      · rw [List.filter_cons, if_neg (by simp [unsendable]), ← ih s]
        simp only [sendAll, raised s]

/-- The frame stream round trip.  A raising call writes nothing, and every prefix
of the successful calls is read back by as many `recv_frame` calls, which leave
exactly the frames of the others, however the stream is cut. -/
theorem frame_stream_round_trip (P : Primitives)
    (keys : Option (Bytes × Bytes)) (calls : List SendCall) (writer : Sock) :
    (∀ call ∈ calls, ∀ s s' failure, call.send P keys s = .error failure s' →
      s' = s ∧ ∃ message, failure = .valueError message) ∧
    (sendAll P keys calls writer).1 =
      (calls.filter fun call => decide (call.Sendable keys)).map SendCall.message ∧
    ∃ frames : List Bytes,
      (sendAll P keys calls writer).2.outgoing =
        writer.outgoing ++ frames.flatten ∧
      (∀ frame ∈ frames, ∃ totalLen, totalLen ≤ maxFrameSize ∧
        totalLen < 2 ^ 32 ∧ frame.length = headerSize + totalLen ∧
        unpackHeader (frame.take headerSize) = totalLen) ∧
      frames.length = (sendAll P keys calls writer).1.length ∧
      ∀ count ≤ frames.length, ∀ (reader : Sock) (rest : Bytes),
        reader.incoming = frames.flatten ++ rest →
        ∃ reader', readMany
            (recvFrame P (keys.map Prod.fst) (keys.map Prod.snd)) count reader =
              .ok ((sendAll P keys calls writer).1.take count) reader' ∧
          reader'.incoming = (frames.drop count).flatten ++ rest := by
  refine ⟨?_, sendAll_messages P keys calls writer, ?_⟩
  · intro call _ s s' failure failed
    rcases SendCall.send_cases P keys call with
      ⟨-, frame, -, sent⟩ | ⟨-, message, raised⟩
    · rw [sent s] at failed
      cases failed
    · rw [raised s] at failed
      cases failed
      exact ⟨rfl, message, rfl⟩
  · obtain ⟨frames, written, sizes, readable⟩ :=
      sendAll_frames P keys calls writer
    refine ⟨frames, written, ?_, readable.length_eq, ?_⟩
    · intro frame member
      obtain ⟨totalLen, fits, size, header⟩ := sizes frame member
      exact ⟨totalLen, fits, Nat.lt_of_le_of_lt fits maxFrameSize_lt, size,
        header⟩
    · intro count within reader rest held
      have front := Reads.readMany (List.forall₂_take count readable)
      rw [List.length_take, ← readable.length_eq, Nat.min_eq_left within] at front
      apply front
      rw [held, ← List.append_assoc, ← List.flatten_append,
        List.take_append_drop]

/-! A call with a `session_id` that is too short, between two that succeed. -/

def streamCall (sessionId payload : Bytes) : SendCall where
  msgType := .dataRequest
  sessionId
  payload
  urandom := zeroNonce

def streamCalls : List SendCall :=
  [streamCall (List.replicate sessionIdSize 1) [7], streamCall [1] [8],
    streamCall (List.replicate sessionIdSize 1) []]

def idleSock : Sock := { incoming := [], cuts := [], ending := .timeout, outgoing := [] }

theorem frame_stream_round_trip_raising :
    ∃ s, readMany (recvFrame .transparent none none) 2
        { idleSock with
          incoming := (sendAll .transparent none streamCalls idleSock).2.outgoing } =
      .ok [(.dataRequest, List.replicate sessionIdSize 1, [7]),
        (.dataRequest, List.replicate sessionIdSize 1, [])] s ∧ s.incoming = [] := by
  obtain ⟨-, sent, frames, written, -, count, reads⟩ :=
    frame_stream_round_trip .transparent none streamCalls idleSock
  have messages : (sendAll .transparent none streamCalls idleSock).1 =
      [(.dataRequest, List.replicate sessionIdSize 1, [7]),
        (.dataRequest, List.replicate sessionIdSize 1, [])] := by
    rw [sent]
    decide +kernel
  have two : frames.length = 2 := by
    rw [count, messages]
    rfl
  have all : idleSock.outgoing ++ frames.flatten = frames.flatten ++ [] := by
    rw [List.append_nil]
    rfl
  obtain ⟨s, read, rest⟩ := reads 2 (Nat.le_of_eq two.symm)
    { idleSock with
      incoming := (sendAll .transparent none streamCalls idleSock).2.outgoing } []
    (written.trans all)
  rw [messages] at read
  refine ⟨s, read, ?_⟩
  rw [rest, ← two, List.drop_length]
  rfl

end VpnTunnel.Crypto
