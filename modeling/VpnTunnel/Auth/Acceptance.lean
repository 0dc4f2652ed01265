import VpnTunnel.Auth.Network

namespace VpnTunnel.Auth

open VpnTunnel.Crypto
open VpnTunnel.Foundation

/-! `server_handshake` from its first statement to its last, and exactly what it
accepts. -/

/-- What the peer, the clock and the socket decide in one call. -/
structure Arrivals (β : Type) where
  hello : Except PyError (Frame β)
  clock : ℚ
  tsS : ℚ
  helloFault : Option PyError
  response : Except PyError (Frame β)
  doneFault : Option PyError

section

variable {β κ : Type}

def serverHandshake [DecidableEq β] (suite : Suite β κ)
    (serverPrivateKey clientPublicKey : κ) (arrivals : Arrivals β) :
    HandshakeM β κ (HandshakeKeys β) := do
  let (nonceC, nonceS) ← serverHello suite serverPrivateKey arrivals.hello
    arrivals.clock arrivals.tsS arrivals.helloFault
  serverDone suite clientPublicKey nonceC nonceS arrivals.response
    arrivals.doneFault

/-- What a call that starts with an empty log has done, returned or raised. -/
def finalIo {ε σ α : Type} : EStateM.Result ε σ α → σ
  | .ok _ io | .error _ io => io

def HandshakeIo.Sent (io : HandshakeIo β κ) (msgType : MessageType) : Prop :=
  ∃ frame, .sent frame ∈ io.log ∧ frame.msgType = msgType

/-- A number at most `MAX_TIMESTAMP_DRIFT` seconds away from the clock. -/
def JsonValue.Fresh (clock : ℚ) : JsonValue β → Prop
  | .number (.float value) => drift clock value ≤ maxTimestampDrift
  | .number (.int value) =>
      |(value : ℚ)| < doubleLimit ∧
        drift clock (toDouble value) ≤ maxTimestampDrift
  | _ => False

/-- No number of seconds, and yet `outsideWindow` lets it pass. -/
def JsonValue.Slips (clock : ℚ) : JsonValue β → Prop
  | .number .nan => True
  | .bool value => drift clock (if value then 1 else 0) ≤ maxTimestampDrift
  | _ => False

structure Frame.IsHello (suite : Suite β κ) (frame : Frame β) (nonceC : List β)
    (tsC : JsonValue β) : Prop where
  isHello : frame.msgType = .handshakeClientHello
  fields : ∃ ch, frame.payload = .json ch ∧
    ch.getHex suite "nonce_c" = .ok nonceC ∧ ch.get "timestamp" = .ok tsC

/-- It answers the challenge of these nonces, and the client has signed them. -/
structure Frame.Answers [DecidableEq β] (suite : Suite β κ) (clientPublicKey : κ)
    (nonceC nonceS : List β) (frame : Frame β) : Prop where
  isResponse : frame.msgType = .handshakeClientResponse
  fields : ∃ cr sigC, frame.payload = .json cr ∧
    cr.getHex suite "challenge_response" =
      .ok (suite.computeHmac (nonceS ++ nonceC) suite.challengeKey) ∧
    cr.getHex suite "signature" = .ok sigC ∧
    suite.verify clientPublicKey (nonceS ++ nonceC) sigC = true

namespace Arrivals

def FreshHello (arrivals : Arrivals β) (suite : Suite β κ) : Prop :=
  ∃ hello nonceC tsC, arrivals.hello = .ok hello ∧
    hello.IsHello suite nonceC tsC ∧ tsC.Fresh arrivals.clock

def Genuine [DecidableEq β] (arrivals : Arrivals β) (suite : Suite β κ)
    (clientPublicKey : κ) (nonceS : List β) : Prop :=
  ∃ hello nonceC tsC response, arrivals.hello = .ok hello ∧
    hello.IsHello suite nonceC tsC ∧ tsC.Fresh arrivals.clock ∧
    arrivals.response = .ok response ∧
    response.Answers suite clientPublicKey nonceC nonceS

/-- The first frame is a ClientHello without a time, that passes for a fresh one. -/
def SlippedHello (arrivals : Arrivals β) (suite : Suite β κ) : Prop :=
  ∃ hello nonceC tsC, arrivals.hello = .ok hello ∧
    hello.IsHello suite nonceC tsC ∧ tsC.Slips arrivals.clock

end Arrivals

/-- What is asked of a call of `server_handshake`, after these draws.  Without a
session key, `nonce_s` and the salt of the signature are all that is drawn. -/
structure AcceptsGenuine [DecidableEq β] (suite : Suite β κ)
    (serverPrivateKey clientPublicKey : κ) (draws : ℕ) (arrivals : Arrivals β) :
    Prop where
  accepts :
    (∃ keys io, serverHandshake suite serverPrivateKey clientPublicKey arrivals
        { draws, log := [] } = .ok keys io ∧ io.Sent .handshakeServerDone) ↔
      arrivals.Genuine suite clientPublicKey (suite.urandom draws nonceSize) ∧
        arrivals.helloFault = none ∧ arrivals.doneFault = none
  refuses :
    ¬ arrivals.Genuine suite clientPublicKey (suite.urandom draws nonceSize) →
      ∃ error io, serverHandshake suite serverPrivateKey clientPublicKey arrivals
          { draws, log := [] } = .error error io ∧
        ¬ io.Sent .handshakeServerDone ∧ io.draws ≤ draws + 2
  unsigned :
    ¬ arrivals.FreshHello suite →
      let io := finalIo (serverHandshake suite serverPrivateKey clientPublicKey
        arrivals { draws, log := [] })
      ¬ io.Sent .handshakeServerHello ∧
        ∀ privateKey data, .signed privateKey data ∉ io.log

/-! What each of the two blocks does with what arrives. -/

theorem outsideWindow_eq_false {clock : ℚ} {tsC : JsonValue β} :
    outsideWindow clock tsC = .ok false ↔ tsC.Fresh clock ∨ tsC.Slips clock := by
  cases tsC with
  | number value =>
      cases value with
      | int value =>
          simp only [outsideWindow, JsonValue.Fresh, JsonValue.Slips, or_false]
          split
          case isTrue large => simp [not_lt.mpr large]
          case isFalse small => simp [not_le.mp small]
      | float value => simp [outsideWindow, JsonValue.Fresh, JsonValue.Slips]
      | nan => simp [outsideWindow, JsonValue.Slips]
      | infinity => simp [outsideWindow, JsonValue.Fresh, JsonValue.Slips]
  | bool value => simp [outsideWindow, JsonValue.Fresh, JsonValue.Slips]
  | null | str | hex | array | object =>
      simp [outsideWindow, JsonValue.Fresh, JsonValue.Slips]

theorem readClientHello_iff {suite : Suite β κ} {frame : Frame β} {nonceC : List β}
    {tsC : JsonValue β} :
    readClientHello suite frame = .ok (nonceC, tsC) ↔
      frame.IsHello suite nonceC tsC := by
  rw [readClientHello_eq_ok]
  exact ⟨fun ⟨isHello, fields⟩ => ⟨isHello, fields⟩,
    fun ⟨isHello, fields⟩ => ⟨isHello, fields⟩⟩

/-- Neither a draw nor a signature, and no frame but an ERROR. -/
def Action.Refusing : Action β κ → Prop
  | .received _ => True
  | .sent frame => frame.msgType = .error
  | .drew _ | .signed _ _ => False

/-- A frame, and the ERROR frame that answers it. -/
def refusal (frame : Frame β) (message : String) : List (Action β κ) :=
  [.received frame, .sent { msgType := .error, payload := .text message }]

theorem refusing_refusal (frame : Frame β) (message : String) :
    ∀ action ∈ (refusal frame message : List (Action β κ)), action.Refusing := by
  simp [refusal, Action.Refusing]

theorem not_sent_of_refusing {draws : ℕ} {log : List (Action β κ)}
    (refusing : ∀ action ∈ log, action.Refusing) {msgType : MessageType}
    (other : msgType ≠ .error) : ¬ HandshakeIo.Sent { draws, log } msgType := by
  rintro ⟨frame, sent, same⟩
  have error : frame.msgType = .error := refusing _ sent
  exact other (same.symm.trans error)

variable {suite : Suite β κ} {serverPrivateKey clientPublicKey : κ}
  {nonceC nonceS : List β} {io : HandshakeIo β κ}

/-- How a block ends that sends its frame last. -/
def sentLast {α : Type} (fault : Option PyError) (result : α)
    (io : HandshakeIo β κ) : EStateM.Result (HandshakeError β) (HandshakeIo β κ) α :=
  match fault with
  | none => .ok result io
  | some error => .error (.py error) io

theorem serverHello_accepts (serverPrivateKey : κ) (io : HandshakeIo β κ) (tsS : ℚ)
    {frame : Frame β} {tsC : JsonValue β} {clock : ℚ}
    (hello : frame.IsHello suite nonceC tsC)
    (inside : outsideWindow clock tsC = .ok false) (fault : Option PyError) :
    ∃ payload, serverHello suite serverPrivateKey (.ok frame) clock tsS fault io =
      sentLast fault (nonceC, suite.urandom io.draws nonceSize)
        { draws := io.draws + 2
          log := io.log ++ [.received frame, .drew io.draws, .drew (io.draws + 1),
            .signed serverPrivateKey (nonceC ++ suite.urandom io.draws nonceSize),
            .sent { msgType := .handshakeServerHello, payload }] } := by
  have read := readClientHello_iff.mpr hello
  cases fault with
  | none => exact ⟨_, by simp [serverHello, read, inside]; rfl⟩
  | some error => exact ⟨_, by simp [serverHello, read, inside]; rfl⟩

theorem serverHello_refuses (serverPrivateKey : κ) (io : HandshakeIo β κ) (tsS : ℚ)
    {received : Except PyError (Frame β)} {clock : ℚ}
    (other : ∀ frame nonceC tsC, received = .ok frame →
      frame.IsHello suite nonceC tsC → outsideWindow clock tsC ≠ .ok false)
    (fault : Option PyError) :
    ∃ error log, serverHello suite serverPrivateKey received clock tsS fault io =
        .error error { io with log := io.log ++ log } ∧
      ∀ action ∈ log, action.Refusing := by
  cases received with
  | error error => exact ⟨.py error, [], by simp [serverHello], by simp⟩
  | ok frame =>
      cases read : readClientHello suite frame with
      | error error =>
          exact ⟨error, [.received frame], by simp [serverHello, read],
            by simp [Action.Refusing]⟩
      | ok fields =>
          obtain ⟨nonceC, tsC⟩ := fields
          have hello := readClientHello_iff.mp read
          cases window : outsideWindow clock tsC with
          | error error =>
              exact ⟨error, [.received frame], by simp [serverHello, read, window],
                by simp [Action.Refusing]⟩
          | ok outside =>
              cases outside with
              | false => exact absurd window (other frame nonceC tsC rfl hello)
              | true =>
                  exact ⟨_, refusal frame "ClientHello timestamp outside acceptable window",
                    by simp [serverHello, read, window, refusal]; rfl,
                    refusing_refusal frame _⟩

theorem Frame.IsHello.unique {frame : Frame β} {other : List β}
    {tsC otherTs : JsonValue β} (first : frame.IsHello suite nonceC tsC)
    (second : frame.IsHello suite other otherTs) :
    other = nonceC ∧ otherTs = tsC := by
  have same := (readClientHello_iff.mpr second).symm.trans
    (readClientHello_iff.mpr first)
  exact Prod.mk.inj (Except.ok.inj same)

theorem JsonValue.Fresh.not_slips {clock : ℚ} {tsC : JsonValue β}
    (fresh : tsC.Fresh clock) : ¬ tsC.Slips clock := by
  cases tsC with
  | number value =>
      cases value with
      | nan => cases fresh
      | int | float | infinity => exact id
  | bool value => cases fresh
  | null | str | hex | array | object => exact id

variable [DecidableEq β]

theorem readClientResponse_iff {frame : Frame β} :
    (∃ challengeResponse sigC,
      readClientResponse suite frame = .ok (challengeResponse, sigC) ∧
      suite.verifyHmac (nonceS ++ nonceC) challengeResponse suite.challengeKey =
        true ∧
      suite.verify clientPublicKey (nonceS ++ nonceC) sigC = true) ↔
      frame.Answers suite clientPublicKey nonceC nonceS := by
  constructor
  · rintro ⟨challengeResponse, sigC, read, matched, verified⟩
    obtain ⟨isResponse, cr, decoded, challengeRead, sigRead⟩ :=
      readClientResponse_eq_ok.mp read
    obtain rfl := of_decide_eq_true matched
    exact ⟨isResponse, cr, sigC, decoded, challengeRead, sigRead, verified⟩
  · rintro ⟨isResponse, cr, sigC, decoded, challengeRead, sigRead, verified⟩
    exact ⟨_, sigC,
      readClientResponse_eq_ok.mpr ⟨isResponse, cr, decoded, challengeRead, sigRead⟩,
      decide_eq_true rfl, verified⟩

theorem serverDone_accepts (io : HandshakeIo β κ) {frame : Frame β}
    (answers : frame.Answers suite clientPublicKey nonceC nonceS)
    (fault : Option PyError) :
    ∃ payload,
      serverDone suite clientPublicKey nonceC nonceS (.ok frame) fault io =
        sentLast fault
          (handshakeKeys suite (suite.urandom io.draws sessionIdSize)
            (suite.urandom (io.draws + 1) aesKeySize))
          { draws := io.draws + 3
            log := io.log ++ [.received frame, .drew io.draws,
              .drew (io.draws + 1), .drew (io.draws + 2),
              .sent { msgType := .handshakeServerDone, payload }] } := by
  obtain ⟨challengeResponse, sigC, read, matched, verified⟩ :=
    readClientResponse_iff.mpr answers
  cases fault with
  | none => exact ⟨_, by simp [serverDone, read, matched, verified]; rfl⟩
  | some error => exact ⟨_, by simp [serverDone, read, matched, verified]; rfl⟩

theorem serverDone_refuses (io : HandshakeIo β κ)
    {received : Except PyError (Frame β)}
    (other : ∀ frame, received = .ok frame →
      ¬ frame.Answers suite clientPublicKey nonceC nonceS)
    (fault : Option PyError) :
    ∃ error log,
      serverDone suite clientPublicKey nonceC nonceS received fault io =
        .error error { io with log := io.log ++ log } ∧
      ∀ action ∈ log, action.Refusing := by
  cases received with
  | error error => exact ⟨.py error, [], by simp [serverDone], by simp⟩
  | ok frame =>
      cases read : readClientResponse suite frame with
      | error error =>
          exact ⟨error, [.received frame], by simp [serverDone, read],
            by simp [Action.Refusing]⟩
      | ok fields =>
          obtain ⟨challengeResponse, sigC⟩ := fields
          cases matched : suite.verifyHmac (nonceS ++ nonceC) challengeResponse
              suite.challengeKey with
          | false =>
              exact ⟨_, refusal frame "Challenge response HMAC mismatch",
                by simp [serverDone, read, matched, refusal]; rfl,
                refusing_refusal frame _⟩
          | true =>
              cases verified : suite.verify clientPublicKey (nonceS ++ nonceC)
                  sigC with
              | false =>
                  exact ⟨_, refusal frame "Client signature verification failed",
                    by simp [serverDone, read, matched, verified, refusal]; rfl,
                    refusing_refusal frame _⟩
              | true =>
                  exact absurd (readClientResponse_iff.mp
                    ⟨challengeResponse, sigC, read, matched, verified⟩)
                    (other frame rfl)

/-! The whole call. -/

theorem serverHandshake_of_refused (serverPrivateKey clientPublicKey : κ) (draws : ℕ)
    {arrivals : Arrivals β}
    (other : ∀ frame nonceC tsC, arrivals.hello = .ok frame →
      frame.IsHello suite nonceC tsC →
      outsideWindow arrivals.clock tsC ≠ .ok false) :
    ∃ error log, serverHandshake suite serverPrivateKey clientPublicKey arrivals
        { draws, log := [] } = .error error { draws, log } ∧
      ∀ action ∈ log, action.Refusing := by
  obtain ⟨error, log, refused, refusing⟩ := serverHello_refuses
    serverPrivateKey { draws, log := [] } arrivals.tsS other arrivals.helloFault
  refine ⟨error, log, ?_, refusing⟩
  simp only [serverHandshake, handshakeM_bind, refused, List.nil_append]

/-- The log when the ServerHello has gone out. -/
def greeting (suite : Suite β κ) (serverPrivateKey : κ) (draws : ℕ)
    (hello : Frame β) (nonceC : List β) (payload : Payload β) :
    HandshakeIo β κ :=
  { draws := draws + 2
    log := [.received hello, .drew draws, .drew (draws + 1),
      .signed serverPrivateKey (nonceC ++ suite.urandom draws nonceSize),
      .sent { msgType := .handshakeServerHello, payload }] }

theorem serverHandshake_of_hello (serverPrivateKey clientPublicKey : κ) (draws : ℕ)
    {arrivals : Arrivals β} {hello : Frame β} {tsC : JsonValue β} (arrived : arrivals.hello = .ok hello)
    (isHello : hello.IsHello suite nonceC tsC)
    (inside : outsideWindow arrivals.clock tsC = .ok false) :
    ∃ payload,
      let greeted := greeting suite serverPrivateKey draws hello nonceC payload
      (arrivals.helloFault = none →
        serverHandshake suite serverPrivateKey clientPublicKey arrivals
            { draws, log := [] } =
          serverDone suite clientPublicKey nonceC (suite.urandom draws nonceSize)
            arrivals.response arrivals.doneFault greeted) ∧
      ∀ error, arrivals.helloFault = some error →
        serverHandshake suite serverPrivateKey clientPublicKey arrivals
          { draws, log := [] } = .error (.py error) greeted := by
  obtain ⟨payload, greeted⟩ := serverHello_accepts
    serverPrivateKey { draws, log := [] } arrivals.tsS isHello inside
    arrivals.helloFault
  refine ⟨payload, ?_, ?_⟩
  · intro sent
    rw [sent] at greeted
    simp only [serverHandshake, handshakeM_bind, arrived, sent, greeted, sentLast]
    rfl
  · intro error faulty
    rw [faulty] at greeted
    simp only [serverHandshake, handshakeM_bind, arrived, faulty, greeted, sentLast]
    rfl

theorem acceptsGenuine_of_refused {draws : ℕ} {arrivals : Arrivals β}
    (other : ∀ frame nonceC tsC, arrivals.hello = .ok frame →
      frame.IsHello suite nonceC tsC →
      outsideWindow arrivals.clock tsC ≠ .ok false) :
    AcceptsGenuine suite serverPrivateKey clientPublicKey draws arrivals := by
  obtain ⟨error, log, raised, refusing⟩ := serverHandshake_of_refused
    serverPrivateKey clientPublicKey draws other
  refine ⟨⟨?_, ?_⟩, fun _ => ⟨error, _, raised,
    not_sent_of_refusing refusing (by decide), Nat.le_add_right draws 2⟩, fun _ => ?_⟩
  · rintro ⟨keys, io, returned, -⟩
    cases raised.symm.trans returned
  · rintro ⟨⟨hello, nonceC, tsC, -, arrived, isHello, fresh, -⟩, -⟩
    exact absurd (outsideWindow_eq_false.mpr (.inl fresh))
      (other hello nonceC tsC arrived isHello)
  · rw [raised]
    exact ⟨not_sent_of_refusing refusing (by decide),
      fun privateKey data signed => refusing _ signed⟩

theorem signed_serverDone {received : Except PyError (Frame β)}
    {fault : Option PyError} {action : Action β κ} (logged : action ∈ io.log) :
    action ∈ (finalIo
      (serverDone suite clientPublicKey nonceC nonceS received fault io)).log := by
  by_cases answered : ∃ frame, received = .ok frame ∧
      frame.Answers suite clientPublicKey nonceC nonceS
  · obtain ⟨frame, rfl, answers⟩ := answered
    obtain ⟨payload, finished⟩ := serverDone_accepts io answers fault
    rw [finished]
    cases fault with
    | none => exact List.mem_append_left _ logged
    | some error => exact List.mem_append_left _ logged
  · obtain ⟨error, log, refused, -⟩ := serverDone_refuses io
      (fun frame came answers => answered ⟨frame, came, answers⟩) fault
    rw [refused]
    exact List.mem_append_left _ logged

/-- After a fresh ClientHello the second frame decides. -/
theorem acceptsGenuine_of_fresh {draws : ℕ} {arrivals : Arrivals β}
    {hello : Frame β} {tsC : JsonValue β} (arrived : arrivals.hello = .ok hello)
    (isHello : hello.IsHello suite nonceC tsC) (fresh : tsC.Fresh arrivals.clock) :
    AcceptsGenuine suite serverPrivateKey clientPublicKey draws arrivals := by
  obtain ⟨payload, greeted, lost⟩ := serverHandshake_of_hello
    serverPrivateKey clientPublicKey draws arrived isHello
    (outsideWindow_eq_false.mpr (.inl fresh))
  have genuine : arrivals.Genuine suite clientPublicKey
      (suite.urandom draws nonceSize) ↔
        ∃ response, arrivals.response = .ok response ∧
          response.Answers suite clientPublicKey nonceC
            (suite.urandom draws nonceSize) := by
    constructor
    · rintro ⟨other, otherNonce, _, response, same, otherHello, -, came, answers⟩
      obtain rfl := Except.ok.inj (arrived.symm.trans same)
      obtain ⟨rfl, -⟩ := isHello.unique otherHello
      exact ⟨response, came, answers⟩
    · rintro ⟨response, came, answers⟩
      exact ⟨hello, nonceC, tsC, response, arrived, isHello, fresh, came, answers⟩
  have noDone : ¬ (greeting suite serverPrivateKey draws hello nonceC payload).Sent
      .handshakeServerDone := by
    rintro ⟨frame, sent, same⟩
    simp only [greeting, List.mem_cons, reduceCtorEq, Action.sent.injEq, false_or,
      List.not_mem_nil, or_false] at sent
    subst sent
    cases same
  have freshHello : arrivals.FreshHello suite :=
    ⟨hello, nonceC, tsC, arrived, isHello, fresh⟩
  cases ends : arrivals.helloFault with
  | some error =>
      have raised := lost error ends
      refine ⟨⟨?_, ?_⟩, fun _ => ⟨_, _, raised, noDone, Nat.le_refl _⟩,
        fun stale => absurd freshHello stale⟩
      · rintro ⟨keys, io, returned, -⟩
        cases raised.symm.trans returned
      · rintro ⟨-, none_, -⟩
        cases ends.symm.trans none_
  | none =>
      have continues := greeted ends
      by_cases answered : ∃ response, arrivals.response = .ok response ∧
          response.Answers suite clientPublicKey nonceC (suite.urandom draws nonceSize)
      · obtain ⟨response, came, answers⟩ := answered
        obtain ⟨done, finished⟩ := serverDone_accepts
          (greeting suite serverPrivateKey draws hello nonceC payload) answers
          arrivals.doneFault
        rw [came, finished] at continues
        have isGenuine := genuine.mpr ⟨response, came, answers⟩
        refine ⟨⟨?_, ?_⟩, fun refused => absurd isGenuine refused,
          fun stale => absurd freshHello stale⟩
        · rintro ⟨keys, io, returned, -⟩
          refine ⟨isGenuine, ends, ?_⟩
          cases last : arrivals.doneFault with
          | none => rfl
          | some error =>
              rw [last] at continues
              cases continues.symm.trans returned
        · rintro ⟨-, -, last⟩
          rw [last] at continues
          exact ⟨_, _, continues, _, List.mem_append_right _ (by simp; rfl), rfl⟩
      · obtain ⟨error, log, refused, refusing⟩ := serverDone_refuses
          (greeting suite serverPrivateKey draws hello nonceC payload)
          (fun frame came answers => answered ⟨frame, came, answers⟩)
          arrivals.doneFault
        have raised := continues.trans refused
        refine ⟨⟨?_, ?_⟩, fun _ => ⟨_, _, raised, ?_, Nat.le_refl _⟩,
          fun stale => absurd freshHello stale⟩
        · rintro ⟨keys, io, returned, -⟩
          cases raised.symm.trans returned
        · rintro ⟨isGenuine, -, -⟩
          exact absurd (genuine.mp isGenuine) answered
        · rintro ⟨frame, sent, same⟩
          rcases List.mem_append.mp sent with before | later
          · exact noDone ⟨frame, before, same⟩
          · have unsent : ¬ HandshakeIo.Sent { draws := 0, log } .handshakeServerDone :=
              not_sent_of_refusing refusing (by decide)
            exact unsent ⟨frame, later, same⟩

/-- A ClientHello that slips through is signed, whatever follows. -/
theorem not_acceptsGenuine_of_slips {draws : ℕ} {arrivals : Arrivals β}
    (slipped : arrivals.SlippedHello suite) :
    ¬ AcceptsGenuine suite serverPrivateKey clientPublicKey draws arrivals := by
  obtain ⟨hello, nonceC, tsC, arrived, isHello, slips⟩ := slipped
  intro asked
  have stale : ¬ arrivals.FreshHello suite := by
    rintro ⟨other, otherNonce, otherTs, same, otherHello, fresh⟩
    obtain rfl := Except.ok.inj (arrived.symm.trans same)
    obtain ⟨-, rfl⟩ := isHello.unique otherHello
    exact fresh.not_slips slips
  obtain ⟨payload, greeted, lost⟩ := serverHandshake_of_hello
    serverPrivateKey clientPublicKey draws arrived isHello
    (outsideWindow_eq_false.mpr (.inr slips))
  apply (asked.unsigned stale).2 serverPrivateKey
    (nonceC ++ suite.urandom draws nonceSize)
  cases ends : arrivals.helloFault with
  | some error =>
      rw [lost error ends]
      simp [finalIo, greeting]
  | none =>
      rw [greeted ends]
      exact signed_serverDone (by simp [greeting])

/-- The call is as it should be unless the first frame is a ClientHello whose
timestamp is NaN, or a boolean that counts as a second near the clock. -/
theorem server_handshake_acceptance (suite : Suite β κ)
    (serverPrivateKey clientPublicKey : κ) (draws : ℕ) (arrivals : Arrivals β) :
    AcceptsGenuine suite serverPrivateKey clientPublicKey draws arrivals ↔
      ¬ arrivals.SlippedHello suite := by
  constructor
  · intro asked slipped
    exact not_acceptsGenuine_of_slips slipped asked
  · intro orderly
    by_cases inside : ∃ hello nonceC tsC, arrivals.hello = .ok hello ∧
        hello.IsHello suite nonceC tsC ∧
        outsideWindow arrivals.clock tsC = .ok false
    · obtain ⟨hello, nonceC, tsC, arrived, isHello, window⟩ := inside
      rcases outsideWindow_eq_false.mp window with fresh | slips
      · exact acceptsGenuine_of_fresh arrived isHello fresh
      · exact absurd ⟨hello, nonceC, tsC, arrived, isHello, slips⟩ orderly
    · exact acceptsGenuine_of_refused fun hello nonceC tsC arrived isHello window =>
        inside ⟨hello, nonceC, tsC, arrived, isHello, window⟩

end

/-! A ClientHello of no time at all, and an honest client's answer. -/

def timelessNonce : List Symbol := List.replicate nonceSize (.lit 0)

def timelessTranscript : List Symbol := idealSuite.urandom 0 nonceSize ++ timelessNonce

def timelessArrivals : Arrivals Symbol where
  hello := .ok
    { msgType := .handshakeClientHello
      payload := .json (.dict
        [("nonce_c", .hex timelessNonce), ("timestamp", .number .nan)]) }
  clock := 1700000000
  tsS := 1700000000
  helloFault := none
  response := .ok
    { msgType := .handshakeClientResponse
      payload := clientResponsePayload
        (idealSuite.computeHmac timelessTranscript idealSuite.challengeKey)
        (idealSuite.sign .client timelessTranscript
          (idealSuite.urandom 7 pssSaltSize)) }
  doneFault := none

theorem server_handshake_timeless :
    ¬ AcceptsGenuine idealSuite .server .client 0 timelessArrivals :=
  not_acceptsGenuine_of_slips
    ⟨_, timelessNonce, .number .nan, rfl, ⟨rfl, _, rfl, rfl, rfl⟩, trivial⟩

end VpnTunnel.Auth
