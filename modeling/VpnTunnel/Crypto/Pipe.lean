import VpnTunnel.Crypto.FrameImage

namespace VpnTunnel.Crypto

open VpnTunnel.Foundation

/-! One direction of a TCP connection: what has arrived at the reader, and what is
on its way.  It is delivered in order, in pieces of any size. -/

structure Pipe where
  arrived : Bytes
  inflight : Bytes
  /-- The writer has closed its socket. -/
  closed : Bool
  deriving DecidableEq, Repr

namespace Pipe

def empty : Pipe := { arrived := [], inflight := [], closed := false }

def stream (pipe : Pipe) : Bytes := pipe.arrived ++ pipe.inflight

/-- The writer sends these bytes, and may close its socket behind them. -/
def write (pipe : Pipe) (bytes : Bytes) (closes : Bool) : Pipe :=
  { pipe with inflight := pipe.inflight ++ bytes, closed := closes }

def deliver (pipe : Pipe) (size : ℕ) : Option Pipe :=
  if pipe.inflight = [] then none
  else
    some { pipe with
      arrived := pipe.arrived ++ pipe.inflight.take (size + 1)
      inflight := pipe.inflight.drop (size + 1) }

/-- The reader's end.  Where `recv` would wait for more, it meets a timeout. -/
def sock (pipe : Pipe) (cuts : List ℕ) : Sock :=
  { incoming := pipe.arrived
    cuts
    ending := if pipe.closed = true ∧ pipe.inflight = [] then .eof else .timeout
    outgoing := [] }

/-- `recv_frame`, once all that it reads has arrived; until then it waits. -/
def recvFrame (P : Primitives) (encKey macKey : Option Bytes) (pipe : Pipe)
    (cuts : List ℕ) :
    Option (Except PyError (MessageType × Bytes × Bytes) × Pipe) :=
  match Crypto.recvFrame P encKey macKey (pipe.sock cuts) with
  | .ok frame after => some (.ok frame, { pipe with arrived := after.incoming })
  | .error .timeout _ => none
  | .error error after =>
      some (.error error, { pipe with arrived := after.incoming })

/-- `recv_frame` gives up on the rest of a frame; what it has read of it is gone. -/
def timeout (P : Primitives) (encKey macKey : Option Bytes) (pipe : Pipe)
    (cuts : List ℕ) : Option Pipe :=
  match Crypto.recvFrame P encKey macKey (pipe.sock cuts) with
  | .error .timeout after => some { pipe with arrived := after.incoming }
  | _ => none

@[simp] theorem stream_write (pipe : Pipe) (bytes : Bytes) (closes : Bool) :
    (pipe.write bytes closes).stream = pipe.stream ++ bytes := by
  simp [stream, write]

theorem deliver_eq_some {pipe next : Pipe} {size : ℕ}
    (delivered : pipe.deliver size = some next) :
    next.stream = pipe.stream ∧ next.closed = pipe.closed ∧
      next.inflight.length < pipe.inflight.length := by
  unfold deliver at delivered
  split at delivered
  · cases delivered
  · next held =>
    cases delivered
    have some_ := List.length_pos_iff.mpr held
    refine ⟨?_, rfl, ?_⟩
    · simp only [stream, List.append_assoc, List.take_append_drop]
    · rw [List.length_drop]
      omega

end Pipe

/-! A stream that is still open when a read wants more of it. -/

theorem recvExactLoop_of_pending (n : Nat) (buf : Bytes) (s : Sock)
    (ends : s.ending = .timeout) (short : buf.length + s.incoming.length < n) :
    ∃ after, recvExactLoop n buf s = .error .timeout after := by
  rw [recvExactLoop, if_pos (by omega)]
  by_cases exhausted : s.incoming = []
  · have waits : recv (n - buf.length) s = .error .timeout s := by
      simp [recv, exhausted, ends]
    exact ⟨s, bind_eq_of_error waits⟩
  · rw [bind_eq_of_ok (recv_of_nonempty exhausted)]
    have some := List.length_pos_iff.mpr exhausted
    have chunk : s.incoming.take
        (min (n - buf.length) (s.cuts.headD (n - buf.length) + 1)) ≠ [] := by
      rw [Ne, List.take_eq_nil_iff]
      rintro (zero | none)
      · omega
      · exact exhausted none
    rw [if_neg chunk]
    apply recvExactLoop_of_pending
    · exact ends
    · simp only [List.length_append, List.length_take, List.length_drop]
      omega
termination_by n - buf.length
decreasing_by
  simp only [List.length_append, List.length_take]
  omega

theorem recvRaw_of_pending {s : Sock} {raw missing : Bytes}
    (ends : s.ending = .timeout) (some_ : missing ≠ [])
    (large : minBody ≤ raw.length) (small : raw.length ≤ maxFrameSize)
    (split : packHeader raw.length ++ raw = s.incoming ++ missing) :
    ∃ after, recvRaw s = .error .timeout after := by
  have lacking := List.length_pos_iff.mpr some_
  have total := congrArg List.length split
  rw [List.length_append, List.length_append, packHeader_length] at total
  by_cases headed : s.incoming.length < headerSize
  · obtain ⟨after, waits⟩ := recvExactLoop_of_pending headerSize [] s ends (by
      simpa using headed)
    exact ⟨after, bind_eq_of_error waits⟩
  · have front : s.incoming = packHeader raw.length ++ s.incoming.drop headerSize := by
      have start := congrArg (List.take headerSize) split
      rw [List.take_append_of_le_length (Nat.le_of_not_lt headed),
        List.take_left' (packHeader_length raw.length)] at start
      rw [start, List.take_append_drop]
    obtain ⟨middle, read, left⟩ := reads_recvExact (packHeader raw.length) s _ front
    rw [packHeader_length] at read
    have declared := unpackHeader_packHeader
      (Nat.lt_of_le_of_lt small maxFrameSize_lt)
    rw [recvRaw_of_header read, declared, if_neg (by omega), if_neg (by omega)]
    refine recvExactLoop_of_pending _ [] middle ?_ ?_
    · exact (recvExactLoop_ending headerSize [] read).trans ends
    · rw [left, List.length_nil, List.length_drop]
      omega

theorem recvFrame_of_pending {P : Primitives} {msgType : MessageType}
    {sessionId payload frame missing : Bytes} {encKey macKey : Option Bytes}
    {urandom : GcmNonce} {s : Sock}
    (built : buildFrame P msgType sessionId payload encKey macKey urandom =
      .ok frame)
    (ends : s.ending = .timeout) (some_ : missing ≠ [])
    (split : frame = s.incoming ++ missing) :
    ∃ after, recvFrame P encKey macKey s = .error .timeout after := by
  obtain ⟨sidSize, encPayload, nonce, protect, fits, rfl⟩ :=
    buildFrame_eq_ok.mp built
  have nonceSize := protectPayload_nonce_length protect
  have size : (frameBody msgType sessionId nonce encPayload ++
      computeHmac P (frameBody msgType sessionId nonce encPayload)
        (orHandshakeKey macKey)).length =
      (frameBody msgType sessionId nonce encPayload).length + hmacDigestSize := by
    rw [List.length_append, computeHmac_length]
  rw [List.append_assoc, ← size] at split
  obtain ⟨after, waits⟩ := recvRaw_of_pending ends some_ (by
    rw [size, frameBody_length, sidSize, nonceSize]
    unfold minBody
    omega) (by omega) split
  exact ⟨after, bind_eq_of_error waits⟩

namespace Pipe

variable {P : Primitives} {encKey macKey : Option Bytes} {pipe : Pipe}

/-- A frame that is all of the stream is read when it has arrived. -/
theorem recvFrame_of_stream {msgType : MessageType}
    {sessionId payload frame : Bytes} {urandom : GcmNonce}
    (built : buildFrame P msgType sessionId payload encKey macKey urandom =
      .ok frame) (whole : pipe.stream = frame) (cuts : List ℕ) :
    pipe.recvFrame P encKey macKey cuts =
      if pipe.inflight = [] then
        some (.ok (msgType, sessionId, payload), { pipe with arrived := [] })
      else none := by
  unfold stream at whole
  split
  next arrived =>
    rw [arrived, List.append_nil] at whole
    obtain ⟨after, received, left⟩ := reads_recvFrame_of_buildFrame built
      (pipe.sock cuts) [] (by rw [List.append_nil]; exact whole)
    rw [recvFrame, received]
    simp only [left]
  next travels =>
    have open_ : (pipe.sock cuts).ending = .timeout := if_neg fun done => travels done.2
    obtain ⟨after, waits⟩ := recvFrame_of_pending built open_ travels whole.symm
    rw [recvFrame, waits]

theorem recvFrame_of_open (silent : pipe.stream = []) (opened : pipe.closed = false)
    (cuts : List ℕ) : pipe.recvFrame P encKey macKey cuts = none := by
  have none_ : (pipe.sock cuts).incoming = [] := (List.append_eq_nil_iff.mp silent).1
  have open_ : (pipe.sock cuts).ending = .timeout := if_neg fun done => by
    rw [opened] at done
    cases done.1
  obtain ⟨after, waits⟩ := recvExactLoop_of_pending headerSize [] _ open_ (by
    rw [none_]
    decide)
  have failed : Crypto.recvFrame P encKey macKey (pipe.sock cuts) =
      .error .timeout after := bind_eq_of_error (bind_eq_of_error waits)
  rw [recvFrame, failed]

theorem recvFrame_of_closed (silent : pipe.stream = []) (closed : pipe.closed = true)
    (cuts : List ℕ) :
    ∃ message, pipe.recvFrame P encKey macKey cuts =
      some (.error (.connectionError message), pipe) := by
  obtain ⟨arrived, inflight⟩ := List.append_eq_nil_iff.mp silent
  have ends : (pipe.sock cuts).ending = .eof := if_pos ⟨closed, inflight⟩
  obtain ⟨message, after, fails, left⟩ := recvExactLoop_of_short headerSize []
    (pipe.sock cuts) ends (by
      change ([] : Bytes).length + pipe.arrived.length < headerSize
      rw [arrived]
      decide)
  have failed : Crypto.recvFrame P encKey macKey (pipe.sock cuts) =
      .error (.connectionError message) after :=
    bind_eq_of_error (bind_eq_of_error fails)
  refine ⟨message, ?_⟩
  rw [recvFrame, failed]
  simp only [left, ← arrived]

end Pipe

end VpnTunnel.Crypto
