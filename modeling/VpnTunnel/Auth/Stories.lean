import VpnTunnel.Auth.Network

namespace VpnTunnel.Auth

open VpnTunnel.Crypto
open VpnTunnel.Foundation

abbrev Log := List (Action Symbol KeyHolder)

/-! What the log of one run says about its point. -/

def ReceivedHello (log : Log) (nonceC : List Symbol) : Prop :=
  ∃ frame tsC, .received frame ∈ log ∧
    readClientHello idealSuite frame = .ok (nonceC, tsC)

def SentHello (log : Log) (nonceS : List Symbol) : Prop :=
  ∃ tsS challengeS sigS,
    .sent
      { msgType := .handshakeServerHello
        payload := serverHelloPayload nonceS tsS challengeS sigS } ∈ log

/-- The run put this session id and this session key into its ServerDone. -/
def SentDone (log : Log) (sessionId sessionKey : List Symbol) : Prop :=
  ∃ seed,
    .sent
      { msgType := .handshakeServerDone
        payload := serverDonePayload sessionId
          (idealSuite.encrypt .client sessionKey seed) } ∈ log

theorem ReceivedHello.append {log : Log} {nonceC : List Symbol}
    (received : ReceivedHello log nonceC) (more : Log) :
    ReceivedHello (log ++ more) nonceC := by
  obtain ⟨frame, tsC, member, read⟩ := received
  exact ⟨frame, tsC, List.mem_append_left more member, read⟩

theorem SentHello.append {log : Log} {nonceS : List Symbol}
    (sent : SentHello log nonceS) (more : Log) :
    SentHello (log ++ more) nonceS := by
  obtain ⟨tsS, challengeS, sigS, member⟩ := sent
  exact ⟨tsS, challengeS, sigS, List.mem_append_left more member⟩

theorem SentDone.append {log : Log} {sessionId sessionKey : List Symbol}
    (sent : SentDone log sessionId sessionKey) (more : Log) :
    SentDone (log ++ more) sessionId sessionKey := by
  obtain ⟨seed, member⟩ := sent
  exact ⟨seed, List.mem_append_left more member⟩

namespace ClientPoint

variable {β : Type}

def nonceC : ClientPoint β → Option (List β)
  | .serverHello nonceC | .serverDone nonceC _ | .returned nonceC _ _ =>
      some nonceC
  | .clientHello | .raised _ => none

/-- The nonces of a run that has accepted a ServerHello. -/
def nonces : ClientPoint β → Option (List β × List β)
  | .serverDone nonceC nonceS | .returned nonceC nonceS _ =>
      some (nonceC, nonceS)
  | .clientHello | .serverHello _ | .raised _ => none

def result : ClientPoint β → Option (HandshakeKeys β)
  | .returned _ _ keys => some keys
  | _ => none

def beforeSigning : ClientPoint β → Bool
  | .clientHello | .serverHello _ => true
  | .serverDone _ _ | .returned _ _ _ | .raised _ => false

end ClientPoint

namespace ServerPoint

variable {β : Type}

def nonces : ServerPoint β → Option (List β × List β)
  | .clientResponse nonceC nonceS | .returned nonceC nonceS _ =>
      some (nonceC, nonceS)
  | .clientHello | .raised _ => none

end ServerPoint

def nonce (draw : ℕ) : List Symbol := SymByte.fresh nonceSize draw

structure ClientStory (point : ClientPoint Symbol) (log : Log) : Prop where
  hello : ∀ nonceC ∈ point.nonceC, ∃ draw clock,
    nonceC = nonce draw ∧ .drew draw ∈ log ∧
      .sent
        { msgType := .handshakeClientHello
          payload := clientHelloPayload nonceC clock } ∈ log
  unsigned : point.beforeSigning = true →
    ∀ signer data, .signed signer data ∉ log
  once : ∀ signer data other otherData, .signed signer data ∈ log →
    .signed other otherData ∈ log →
    signer = .client ∧ otherData = data
  finished : ∀ keys ∈ point.result, ∃ frame sessionKey,
    .received frame ∈ log ∧
      readServerDone idealSuite .client frame =
        .ok (keys.sessionId, sessionKey) ∧
      keys = handshakeKeys idealSuite keys.sessionId sessionKey

structure ServerStory (point : ServerPoint Symbol) (log : Log) : Prop where
  answered : ∀ nonces ∈ point.nonces, ∃ draw,
    nonces.2 = nonce draw ∧ .drew draw ∈ log
  signed : ∀ signer data, .signed signer data ∈ log →
    signer = .server ∧ ∃ nonceC draw, data = nonceC ++ nonce draw ∧
      .drew draw ∈ log ∧ ReceivedHello log nonceC ∧ SentHello log (nonce draw)
  hello : ∀ nonceS, SentHello log nonceS → nonceS.length = nonceSize
  done : ∀ frame, .sent frame ∈ log → frame.msgType = .handshakeServerDone →
    ∃ sessionId sessionKey seed, frame.payload =
      serverDonePayload sessionId (idealSuite.encrypt .client sessionKey seed)
  finished : ∀ nonceC nonceS keys, point = .returned nonceC nonceS keys →
    ∃ draw, keys = handshakeKeys idealSuite keys.sessionId
        (SymByte.fresh aesKeySize draw) ∧
      SentDone log keys.sessionId (SymByte.fresh aesKeySize draw)

theorem ClientStory.start : ClientStory .clientHello [] where
  hello := nofun
  unsigned := nofun
  once := nofun
  finished := nofun

theorem ServerStory.start : ServerStory .clientHello [] where
  answered := nofun
  signed := nofun
  hello := by
    rintro nonceS ⟨tsS, challengeS, sigS, sent⟩
    cases sent
  done := nofun
  finished := nofun

theorem ClientStory.move {draws drawn : ℕ} {before after : ClientPoint Symbol}
    {log more : Log} (story : ClientStory before log)
    (move : ClientMove idealSuite .client .server draws before after more
      drawn) : ClientStory after (log ++ more) := by
  induction move with
  | hello clock =>
      have none := story.unsigned rfl
      refine ⟨?_, ?_, ?_, by intros; contradiction⟩
      · rintro _ ⟨⟩
        exact ⟨draws, clock, rfl, by simp, by simp [idealSuite]⟩
      · intro _
        simpa using none
      · simp [none]
  | response nonceC nonceS clock frame accepted =>
      have none := story.unsigned rfl
      refine ⟨?_, by intros; contradiction, ?_, by intros; contradiction⟩
      · rintro _ ⟨⟩
        obtain ⟨draw, clock, same, drew, sent⟩ := story.hello nonceC rfl
        exact ⟨draw, clock, same, List.mem_append_left _ drew,
          List.mem_append_left _ sent⟩
      · intro signer data other otherData member otherMember
        simp [none] at member otherMember
        exact ⟨member.1, otherMember.2.trans member.2.symm⟩
  | finish nonceC nonceS frame sessionId sessionKey accepted =>
      refine ⟨?_, by intros; contradiction, ?_, ?_⟩
      · rintro _ ⟨⟩
        obtain ⟨draw, clock, same, drew, sent⟩ := story.hello nonceC rfl
        exact ⟨draw, clock, same, List.mem_append_left _ drew,
          List.mem_append_left _ sent⟩
      · simpa using story.once
      · rintro _ ⟨⟩
        exact ⟨frame, sessionKey, by simp, accepted, rfl⟩
  | fault error move ih =>
      exact ⟨by intros; contradiction, by intros; contradiction, (ih story).once,
        by intros; contradiction⟩
  | rejected before error frame =>
      refine ⟨by intros; contradiction, by intros; contradiction, ?_,
        by intros; contradiction⟩
      cases frame with
      | none => simpa using story.once
      | some frame => simpa using story.once

theorem ServerStory.signed_append {point : ServerPoint Symbol} {log : Log}
    (story : ServerStory point log) (more : Log)
    (quiet : ∀ signer data, .signed signer data ∉ more) (signer : KeyHolder)
    (data : List Symbol) (member : .signed signer data ∈ log ++ more) :
    signer = .server ∧ ∃ nonceC draw, data = nonceC ++ nonce draw ∧
      .drew draw ∈ log ++ more ∧ ReceivedHello (log ++ more) nonceC ∧
      SentHello (log ++ more) (nonce draw) := by
  rcases List.mem_append.mp member with before | added
  · obtain ⟨isServer, nonceC, draw, same, drew, received, sent⟩ :=
      story.signed signer data before
    exact ⟨isServer, nonceC, draw, same, List.mem_append_left _ drew,
      received.append more, sent.append more⟩
  · exact absurd added (quiet signer data)

theorem ServerStory.hello_append {point : ServerPoint Symbol} {log : Log}
    (story : ServerStory point log) (more : Log)
    (quiet : ∀ frame, .sent frame ∈ more →
      frame.msgType ≠ .handshakeServerHello) (nonceS : List Symbol)
    (sent : SentHello (log ++ more) nonceS) : nonceS.length = nonceSize := by
  obtain ⟨tsS, challengeS, sigS, member⟩ := sent
  rcases List.mem_append.mp member with before | added
  · exact story.hello nonceS ⟨tsS, challengeS, sigS, before⟩
  · exact absurd rfl (quiet _ added)

theorem ServerStory.done_append {point : ServerPoint Symbol} {log : Log}
    (story : ServerStory point log) (more : Log)
    (quiet : ∀ frame, .sent frame ∈ more →
      frame.msgType ≠ .handshakeServerDone) (frame : Frame Symbol)
    (member : .sent frame ∈ log ++ more)
    (isDone : frame.msgType = .handshakeServerDone) :
    ∃ sessionId sessionKey seed, frame.payload =
      serverDonePayload sessionId
        (idealSuite.encrypt .client sessionKey seed) := by
  rcases List.mem_append.mp member with before | added
  · exact story.done frame before isDone
  · exact absurd isDone (quiet frame added)

theorem ServerStory.move {draws drawn : ℕ} {before after : ServerPoint Symbol}
    {log more : Log} (story : ServerStory before log)
    (move : ServerMove idealSuite .client .server draws before after more
      drawn) : ServerStory after (log ++ more) := by
  induction move with
  | hello frame nonceC tsC clock tsS accepted inside =>
      refine ⟨?_, ?_, ?_, story.done_append _ (by simp), by intros; contradiction⟩
      · rintro _ ⟨⟩
        exact ⟨draws, rfl, by simp⟩
      · intro signer data member
        rcases List.mem_append.mp member with earlier | added
        · obtain ⟨isServer, nonceC, draw, same, drew, received, sent⟩ :=
            story.signed signer data earlier
          exact ⟨isServer, nonceC, draw, same, List.mem_append_left _ drew,
            received.append _, sent.append _⟩
        · simp only [List.mem_cons, reduceCtorEq, Action.signed.injEq, false_or,
            List.not_mem_nil, or_false] at added
          obtain ⟨rfl, rfl⟩ := added
          exact ⟨rfl, nonceC, draws, rfl, by simp,
            ⟨frame, tsC, by simp, accepted⟩, tsS, _, _,
            List.mem_append_right log
              (.tail _ (.tail _ (.tail _ (.tail _ (.head _)))))⟩
      · rintro nonceS ⟨ownTsS, challengeS, sigS, member⟩
        rcases List.mem_append.mp member with earlier | added
        · exact story.hello nonceS ⟨ownTsS, challengeS, sigS, earlier⟩
        · simp [serverHelloPayload] at added
          rw [added.1]
          exact SymByte.length_fresh nonceSize draws
  | done nonceC nonceS frame challengeResponse sigC accepted challenge verified =>
      refine ⟨?_, story.signed_append _ (by simp),
        story.hello_append _ (by simp), ?_, ?_⟩
      · rintro _ ⟨⟩
        obtain ⟨draw, same, drew⟩ := story.answered (nonceC, nonceS) rfl
        exact ⟨draw, same, List.mem_append_left _ drew⟩
      · intro sentFrame member isDone
        rcases List.mem_append.mp member with before | added
        · exact story.done sentFrame before isDone
        · simp at added
          exact ⟨_, _, _, congrArg Frame.payload added⟩
      · rintro _ _ _ ⟨⟩
        exact ⟨draws + 1, rfl, idealSuite.urandom (draws + 2) oaepSeedSize,
          by simp [handshakeKeys, idealSuite]⟩
  | fault error move ih =>
      exact ⟨by intros; contradiction, (ih story).signed, (ih story).hello,
        (ih story).done, by intros; contradiction⟩
  | rejected before error frame =>
      refine ⟨by intros; contradiction, story.signed_append _ ?_,
        story.hello_append _ ?_, story.done_append _ ?_, by intros; contradiction⟩
      · cases frame with
        | none => simp
        | some frame => simp
      · cases frame with
        | none => simp
        | some frame => simp
      · cases frame with
        | none => simp
        | some frame => simp
  | refused before error frame message =>
      exact ⟨by intros; contradiction, story.signed_append _ (by simp),
        story.hello_append _ (by simp), story.done_append _ (by simp), by intros; contradiction⟩

end VpnTunnel.Auth
