import VpnTunnel.Auth.Stories

namespace VpnTunnel.Auth

open VpnTunnel.Crypto
open VpnTunnel.Foundation

/-! What the network has disclosed: nonces and session ids by showing them,
signatures by making them, and session keys in the client's escrow. -/

namespace NetworkState

/-- Some server run put this session key into its ServerDone. -/
def Escrowed (s : NetworkState) (sessionKey : List Symbol) : Prop :=
  ∃ index sessionId, SentDone (s.log (.server index)) sessionId sessionKey

def disclosure (s : NetworkState) : Disclosure KeyHolder where
  draws draw := ∃ index, s.Observed (.rand draw index)
  signed signer data := ∃ party, .signed signer data ∈ s.log party
  escrowed owner sessionKey := owner = .client ∧ s.Escrowed sessionKey
  known := s.Knows

abbrev Shows (s : NetworkState) : Symbol → Prop :=
  Public KeyHolder.Corrupt s.disclosure

end NetworkState

theorem SentDone.mono {log more : Log} (grows : log ⊆ more)
    {sessionId sessionKey : List Symbol}
    (sent : SentDone log sessionId sessionKey) :
    SentDone more sessionId sessionKey := by
  obtain ⟨seed, member⟩ := sent
  exact ⟨seed, grows member⟩

theorem Extends.within {s next : NetworkState} {party : Party} {log : Log}
    (grows : Extends s next party log) :
    s.disclosure.Within next.disclosure where
  draws := by
    rintro draw ⟨index, seen⟩
    exact ⟨index, grows.observed_iff.mpr (.inl seen)⟩
  signed := by
    rintro signer data ⟨other, member⟩
    exact ⟨other, grows.keeps member⟩
  escrowed := by
    rintro owner sessionKey ⟨isClient, other, sessionId, sent⟩
    exact ⟨isClient, other, sessionId, sent.mono fun _ => grows.keeps⟩
  known := fun _ => grows.knows

theorem Extends.escrowed_cases {s next : NetworkState} {party : Party}
    {log : Log} (grows : Extends s next party log) {sessionKey : List Symbol}
    (escrowed : next.Escrowed sessionKey) :
    s.Escrowed sessionKey ∨ ∃ sessionId, SentDone log sessionId sessionKey := by
  obtain ⟨other, sessionId, seed, sent⟩ := escrowed
  rcases grows.mem_iff.mp sent with before | ⟨-, now⟩
  · exact .inl ⟨other, sessionId, seed, before⟩
  · exact .inr ⟨sessionId, seed, now⟩

/-! What a single step draws and sends. -/

theorem ClientMove.drawn_within {draws drawn : ℕ} {log : Log}
    {before after : ClientPoint Symbol}
    (move : ClientMove idealSuite .client .server draws before after log drawn)
    {draw : ℕ} (drew : .drew draw ∈ log) :
    draws ≤ draw ∧ draw < draws + drawn := by
  induction move with
  | hello clock =>
      simp at drew
      omega
  | response nonceC nonceS clock frame accepted =>
      simp at drew
      omega
  | finish nonceC nonceS frame sessionId sessionKey accepted => simp at drew
  | fault error move ih => exact ih drew
  | rejected before error frame => cases frame <;> simp at drew

theorem ServerMove.drawn_within {draws drawn : ℕ} {log : Log}
    {before after : ServerPoint Symbol}
    (move : ServerMove idealSuite .client .server draws before after log drawn)
    {draw : ℕ} (drew : .drew draw ∈ log) :
    draws ≤ draw ∧ draw < draws + drawn := by
  induction move with
  | hello frame nonceC tsC clock tsS accepted inside =>
      simp at drew
      omega
  | done nonceC nonceS frame challengeResponse sigC accepted challenge
      verified =>
      simp at drew
      omega
  | fault error move ih => exact ih drew
  | rejected before error frame => cases frame <;> simp at drew
  | refused before error frame message => simp at drew

theorem mem_computeHmac {data key : List Symbol} {byte : Symbol} :
    byte ∈ idealSuite.computeHmac data key ↔
      ∃ index < hmacDigestSize, .hmac key data index = byte :=
  SymByte.mem_block

theorem mem_sign {signer : KeyHolder} {data salt : List Symbol}
    {byte : Symbol} :
    byte ∈ idealSuite.sign signer data salt ↔
      ∃ index < rsaSize, .sig signer data salt index = byte :=
  SymByte.mem_block

theorem mem_encrypt {owner : KeyHolder} {plaintext seed : List Symbol}
    {byte : Symbol} :
    byte ∈ idealSuite.encrypt owner plaintext seed ↔
      ∃ index < rsaSize, .sealed owner plaintext seed index = byte :=
  SymByte.mem_block

theorem mem_urandom {draw size : ℕ} {byte : Symbol} :
    byte ∈ idealSuite.urandom draw size ↔
      ∃ index < size, .rand draw index = byte :=
  SymByte.mem_block

theorem verify_eq_true {signer : KeyHolder} {data signature : List Symbol} :
    idealSuite.verify signer data signature = true ↔
      ∃ salt, signature = idealSuite.sign signer data salt :=
  SymByte.verifies_eq_true (by decide)

theorem decrypt_eq_some {owner : KeyHolder}
    {ciphertext plaintext : List Symbol} :
    idealSuite.decrypt owner ciphertext = some plaintext ↔
      ∃ seed, ciphertext = idealSuite.encrypt owner plaintext seed :=
  SymByte.unlock_eq_some (by decide)

theorem ClientMove.shown {draws drawn : ℕ} {log : Log}
    {before after : ClientPoint Symbol}
    (move : ClientMove idealSuite .client .server draws before after log drawn)
    {frame : Frame Symbol} (sent : .sent frame ∈ log) {draw index : ℕ}
    (member : .rand draw index ∈ frame.payload.bytes) :
    draw = draws ∧ 0 < drawn := by
  induction move with
  | hello clock =>
      simp at sent
      subst sent
      simp [mem_urandom] at member
      omega
  | response nonceC nonceS clock frame accepted =>
      simp at sent
      subst sent
      simp [mem_computeHmac, mem_sign] at member
  | finish nonceC nonceS frame sessionId sessionKey accepted => simp at sent
  | fault error move ih => exact ih sent
  | rejected before error frame => cases frame <;> simp at sent

theorem ServerMove.shown {draws drawn : ℕ} {log : Log}
    {before after : ServerPoint Symbol}
    (move : ServerMove idealSuite .client .server draws before after log drawn)
    {frame : Frame Symbol} (sent : .sent frame ∈ log) {draw index : ℕ}
    (member : .rand draw index ∈ frame.payload.bytes) :
    draw = draws ∧ 0 < drawn := by
  induction move with
  | hello frame nonceC tsC clock tsS accepted inside =>
      simp at sent
      subst sent
      simp [mem_urandom, mem_computeHmac, mem_sign] at member
      omega
  | done nonceC nonceS frame challengeResponse sigC accepted challenge
      verified =>
      simp at sent
      subst sent
      simp [mem_urandom, mem_encrypt] at member
      omega
  | fault error move ih => exact ih sent
  | rejected before error frame => cases frame <;> simp at sent
  | refused before error frame message =>
      simp at sent
      subst sent
      simp at member

theorem encrypt_injective {owner : KeyHolder} {first second : List Symbol}
    {seed other : List Symbol}
    (same : idealSuite.encrypt owner first seed =
      idealSuite.encrypt owner second other) : first = second := by
  have member : .sealed owner first seed 0 ∈
      idealSuite.encrypt owner second other :=
    same ▸ mem_encrypt.mpr ⟨0, by decide, rfl⟩
  obtain ⟨index, -, shared⟩ := mem_encrypt.mp member
  cases shared
  rfl

theorem ClientMove.not_sentDone {draws drawn : ℕ} {log : Log}
    {before after : ClientPoint Symbol}
    (move : ClientMove idealSuite .client .server draws before after log drawn)
    {sessionId sessionKey : List Symbol} :
    ¬ SentDone log sessionId sessionKey := by
  rintro ⟨seed, sent⟩
  induction move with
  | hello clock => simp at sent
  | response nonceC nonceS clock frame accepted => simp at sent
  | finish nonceC nonceS frame sessionId sessionKey accepted => simp at sent
  | fault error move ih => exact ih sent
  | rejected before error frame => cases frame <;> simp at sent

theorem ServerMove.sentDone {draws drawn : ℕ} {log : Log}
    {before after : ServerPoint Symbol}
    (move : ServerMove idealSuite .client .server draws before after log drawn)
    {sessionId sessionKey : List Symbol}
    (done : SentDone log sessionId sessionKey) :
    sessionKey = SymByte.fresh aesKeySize (draws + 1) ∧ drawn = 3 := by
  obtain ⟨seed, sent⟩ := done
  induction move with
  | hello frame nonceC tsC clock tsS accepted inside => simp at sent
  | done nonceC nonceS frame challengeResponse sigC accepted challenge
      verified =>
      simp [serverDonePayload] at sent
      exact ⟨encrypt_injective sent.2, rfl⟩
  | fault error move ih => exact ih sent
  | rejected before error frame => cases frame <;> simp at sent
  | refused before error frame message => simp at sent

/-! The invariant of all runs. -/

structure Secure (s : NetworkState) : Prop where
  drawn : ∀ party draw, .drew draw ∈ s.log party → draw < s.draws
  own : ∀ party other draw, .drew draw ∈ s.log party →
    .drew draw ∈ s.log other → party = other
  shown : ∀ draw index, s.Observed (.rand draw index) → draw < s.draws
  exposed : ∀ byte, s.Observed byte → s.Shows byte
  escrow : ∀ sessionKey, s.Escrowed sessionKey → ∃ draw < s.draws,
    sessionKey = SymByte.fresh aesKeySize draw ∧
      ∀ index, ¬ s.Observed (.rand draw index)
  heard : ∀ party frame, .received frame ∈ s.log party →
    ∀ byte ∈ frame.payload.bytes, s.Knows byte
  clients : ∀ run ∈ s.clients, ClientStory run.point run.log
  servers : ∀ run ∈ s.servers, ServerStory run.point run.log
  serverSigned : ∀ run ∈ s.clients, ∀ nonces ∈ run.point.nonces,
    ∃ party, .signed .server (nonces.1 ++ nonces.2) ∈ s.log party
  clientSigned : ∀ run ∈ s.servers, ∀ nonceC nonceS keys,
    run.point = .returned nonceC nonceS keys →
      ∃ party, .signed .client (nonceS ++ nonceC) ∈ s.log party

theorem Secure.start : Secure .start where
  drawn party draw drew := by cases party <;> cases drew
  own party other draw drew := by cases party <;> cases drew
  shown := by
    rintro draw index ⟨party, frame, sent, -⟩
    cases party <;> cases sent
  exposed := by
    rintro byte ⟨party, frame, sent, -⟩
    cases party <;> cases sent
  escrow := by
    rintro sessionKey ⟨party, sessionId, seed, sent⟩
    cases party <;> cases sent
  heard party frame received := by cases party <;> cases received
  clients := nofun
  servers := nofun
  serverSigned := nofun
  clientSigned := nofun

namespace Secure

variable {s next : NetworkState}

theorem shows_of_knows (secure : Secure s) {byte : Symbol}
    (known : s.Knows byte) : s.Shows byte :=
  Derives.public secure.exposed (fun _ derived => derived) known

theorem signed_of_verify (secure : Secure s) {signer : KeyHolder}
    (honest : ¬ signer.Corrupt) {data signature : List Symbol}
    (verified : idealSuite.verify signer data signature = true)
    (known : ∀ byte ∈ signature, s.Knows byte) :
    ∃ party, .signed signer data ∈ s.log party := by
  obtain ⟨salt, rfl⟩ := verify_eq_true.mp verified
  have first : .sig signer data salt 0 ∈ idealSuite.sign signer data salt :=
    mem_sign.mpr ⟨0, by decide, rfl⟩
  exact (secure.shows_of_knows (known _ first)).signed_of_sig honest

/-- Where a session key comes from that the client decrypts. -/
theorem origin_of_decrypt (secure : Secure s)
    {ciphertext sessionKey : List Symbol}
    (decrypted : idealSuite.decrypt .client ciphertext = some sessionKey)
    (known : ∀ byte ∈ ciphertext, s.Knows byte) :
    (∀ byte ∈ sessionKey, s.Knows byte) ∨ s.Escrowed sessionKey := by
  obtain ⟨seed, rfl⟩ := decrypt_eq_some.mp decrypted
  have first : .sealed .client sessionKey seed 0 ∈
      idealSuite.encrypt .client sessionKey seed :=
    mem_encrypt.mpr ⟨0, by decide, rfl⟩
  exact (secure.shows_of_knows (known _ first)).origin_of_sealed.imp_right
    And.right

theorem not_knows_escrowed (secure : Secure s) {sessionKey : List Symbol}
    (escrowed : s.Escrowed sessionKey) :
    ∀ byte ∈ sessionKey, ¬ s.Knows byte := by
  intro byte member known
  obtain ⟨draw, -, rfl, hidden⟩ := secure.escrow sessionKey escrowed
  obtain ⟨index, -, rfl⟩ := SymByte.mem_fresh.mp member
  obtain ⟨place, seen⟩ := (secure.shows_of_knows known).draws_of_rand
  exact hidden place seen

theorem not_knows_derived (secure : Secure s) {sessionKey : List Symbol}
    (escrowed : s.Escrowed sessionKey) (salt info : List Symbol) (index : ℕ) :
    ¬ s.Knows (.kdf sessionKey salt info index) := by
  intro known
  have fromKey := (secure.shows_of_knows known).secret_of_kdf
  obtain ⟨draw, -, rfl, hidden⟩ := secure.escrow sessionKey escrowed
  have first : (.rand draw 0 : Symbol) ∈ SymByte.fresh aesKeySize draw :=
    SymByte.mem_fresh.mpr ⟨0, by decide, rfl⟩
  obtain ⟨place, seen⟩ := (fromKey _ first).draws_of_rand
  exact hidden place seen

end Secure

/-! A step of either party shows only what is disclosed after it. -/

section

variable {s next : NetworkState} {party : Party} {drawn : ℕ} {log : Log}

theorem Extends.shows (grows : Extends s next party log) {byte : Symbol}
    (shown : s.Shows byte) : next.Shows byte :=
  shown.mono grows.within

theorem Extends.shows_rand (grows : Extends s next party log)
    {frame : Frame Symbol} (sent : .sent frame ∈ log) {draw index : ℕ}
    (member : .rand draw index ∈ frame.payload.bytes) :
    next.Shows (.rand draw index) :=
  .rand index ⟨index, grows.observed_iff.mpr (.inr ⟨frame, sent, member⟩)⟩

theorem Extends.shows_sign (grows : Extends s next party log)
    {signer : KeyHolder} {data salt : List Symbol}
    (signed : .signed signer data ∈ log)
    (fromData : ∀ byte ∈ data, next.Shows byte) :
    ∀ byte ∈ idealSuite.sign signer data salt, next.Shows byte := by
  intro byte member
  obtain ⟨index, -, rfl⟩ := mem_sign.mp member
  exact .sig salt index (.inr ⟨party, grows.adds signed⟩) fromData

theorem shows_computeHmac (data key : List Symbol) :
    ∀ byte ∈ idealSuite.computeHmac data key, s.Shows byte := by
  intro byte member
  obtain ⟨index, -, rfl⟩ := mem_computeHmac.mp member
  exact .hmac key data index

theorem ClientMove.shows (secure : Secure s)
    (grows : Extends s next party log) {before after : ClientPoint Symbol}
    (story : ClientStory before (s.log party))
    (move : ClientMove idealSuite .client .server s.draws before after log
      drawn)
    (known : ∀ frame, .received frame ∈ log →
      ∀ byte ∈ frame.payload.bytes, s.Knows byte)
    {frame : Frame Symbol} (sent : .sent frame ∈ log) {byte : Symbol}
    (member : byte ∈ frame.payload.bytes) : next.Shows byte := by
  induction move with
  | hello clock =>
      have isHello := sent
      simp at isHello
      have inNonce := member
      simp [isHello, mem_urandom] at inNonce
      obtain ⟨index, -, rfl⟩ := inNonce
      exact grows.shows_rand sent member
  | response nonceC nonceS clock frame accepted =>
      simp at sent
      subst sent
      simp only [clientResponsePayload_bytes, List.mem_append] at member
      rcases member with inChallenge | inSignature
      · exact shows_computeHmac _ _ _ inChallenge
      · refine grows.shows_sign (by simp) ?_ byte inSignature
        intro byte inData
        rcases List.mem_append.mp inData with inNonceS | inNonceC
        · obtain ⟨-, sh, -, -, -, decoded, read, -⟩ :=
            readServerHello_eq_ok.mp accepted
          have fromFrame := s.knows_of_getHex (known frame (by simp)) decoded read
          exact grows.shows (secure.shows_of_knows (fromFrame byte inNonceS))
        · obtain ⟨draw, clock, -, -, hello⟩ := story.hello nonceC rfl
          exact grows.shows
            (secure.exposed byte ⟨party, _, hello, by simpa using inNonceC⟩)
  | finish nonceC nonceS frame sessionId sessionKey accepted => simp at sent
  | fault error move ih => exact ih grows story known sent
  | rejected before error frame => cases frame <;> simp at sent

theorem ServerMove.shows (secure : Secure s) {index : ℕ}
    (grows : Extends s next (.server index) log) {before after : ServerPoint Symbol}
    (move : ServerMove idealSuite .client .server s.draws before after log
      drawn)
    (known : ∀ frame, .received frame ∈ log →
      ∀ byte ∈ frame.payload.bytes, s.Knows byte)
    {frame : Frame Symbol} (sent : .sent frame ∈ log) {byte : Symbol}
    (member : byte ∈ frame.payload.bytes) : next.Shows byte := by
  induction move with
  | hello received nonceC tsC clock tsS accepted inside =>
      have fromNonce (byte : Symbol)
          (inNonce : byte ∈ idealSuite.urandom s.draws nonceSize) :
          next.Shows byte := by
        have inFrame := sent
        simp at inFrame
        obtain ⟨index, -, rfl⟩ := mem_urandom.mp inNonce
        exact grows.shows_rand sent (by simp [inFrame, inNonce])
      have isHello := sent
      simp at isHello
      subst isHello
      simp only [serverHelloPayload_bytes, List.mem_append] at member
      rcases member with inNonce | inChallenge | inSignature
      · exact fromNonce byte inNonce
      · exact shows_computeHmac _ _ _ inChallenge
      · refine grows.shows_sign (by simp) ?_ byte inSignature
        intro byte inData
        rcases List.mem_append.mp inData with inNonceC | inNonce
        · obtain ⟨-, ch, decoded, read, -⟩ := readClientHello_eq_ok.mp accepted
          have fromFrame :=
            s.knows_of_getHex (known received (by simp)) decoded read
          exact grows.shows (secure.shows_of_knows (fromFrame byte inNonceC))
        · exact fromNonce byte inNonce
  | done nonceC nonceS received challengeResponse sigC accepted challenge
      verified =>
      have isDone := sent
      simp at isDone
      have inFrame := member
      simp only [isDone, serverDonePayload_bytes, List.mem_append] at inFrame
      rcases inFrame with inSessionId | inKey
      · obtain ⟨index, -, rfl⟩ := mem_urandom.mp inSessionId
        exact grows.shows_rand sent member
      · obtain ⟨place, -, rfl⟩ := mem_encrypt.mp inKey
        exact .escrow _ place client_honest ⟨rfl, index,
          idealSuite.urandom s.draws sessionIdSize,
          idealSuite.urandom (s.draws + 2) oaepSeedSize,
          grows.adds (by simp)⟩
  | fault error move ih => exact ih grows known sent
  | rejected before error frame => cases frame <;> simp at sent
  | refused before error frame message =>
      simp at sent
      subst sent
      simp at member

end

/-! Every step keeps the invariant. -/

theorem ClientMove.nonces {draws drawn : ℕ} {log : Log}
    {before after : ClientPoint Symbol}
    (move : ClientMove idealSuite .client .server draws before after log drawn)
    {nonces : List Symbol × List Symbol} (holds : nonces ∈ after.nonces) :
    nonces ∈ before.nonces ∨ ∃ frame clock, .received frame ∈ log ∧
      readServerHello idealSuite .server nonces.1 clock frame =
        .ok nonces.2 := by
  cases move with
  | hello clock => cases holds
  | response nonceC nonceS clock frame accepted =>
      cases holds
      exact .inr ⟨frame, clock, by simp, accepted⟩
  | finish nonceC nonceS frame sessionId sessionKey accepted => exact .inl holds
  | fault error move => cases holds
  | rejected before error frame => cases holds

theorem ServerMove.returned {draws drawn : ℕ} {log : Log}
    {before after : ServerPoint Symbol}
    (move : ServerMove idealSuite .client .server draws before after log drawn)
    {nonceC nonceS : List Symbol} {keys : HandshakeKeys Symbol}
    (returned : after = .returned nonceC nonceS keys) :
    ∃ frame challengeResponse sigC, .received frame ∈ log ∧
      readClientResponse idealSuite frame = .ok (challengeResponse, sigC) ∧
      idealSuite.verify .client (nonceS ++ nonceC) sigC = true := by
  cases move with
  | hello frame nonceC tsC clock tsS accepted inside => cases returned
  | done nonceC nonceS frame challengeResponse sigC accepted challenge
      verified =>
      cases returned
      exact ⟨frame, challengeResponse, sigC, by simp, accepted, verified⟩
  | fault error move => cases returned
  | rejected before error frame => cases returned
  | refused before error frame message => cases returned

/-- What one step adds to the logs. -/
structure Adds (s next : NetworkState) (party : Party) (log : Log)
    (drawn : ℕ) : Prop where
  grows : Extends s next party log
  draws : next.draws = s.draws + drawn
  draw_within : ∀ draw, .drew draw ∈ log → s.draws ≤ draw ∧ draw < s.draws + drawn
  shown : ∀ frame, .sent frame ∈ log → ∀ draw index,
    .rand draw index ∈ frame.payload.bytes → draw = s.draws ∧ 0 < drawn
  shows : ∀ frame, .sent frame ∈ log → ∀ byte ∈ frame.payload.bytes,
    next.Shows byte
  done : ∀ sessionId sessionKey, SentDone log sessionId sessionKey →
    sessionKey = SymByte.fresh aesKeySize (s.draws + 1) ∧ drawn = 3
  known : ∀ frame, .received frame ∈ log →
    ∀ byte ∈ frame.payload.bytes, s.Knows byte

namespace Adds

variable {s next : NetworkState} {party : Party} {log : Log} {drawn : ℕ}

theorem none (grows : Extends s next party []) (draws : next.draws = s.draws) :
    Adds s next party [] 0 where
  grows
  draws
  draw_within := nofun
  shown := nofun
  shows := nofun
  done := by
    rintro sessionId sessionKey ⟨seed, sent⟩
    cases sent
  known := nofun

theorem fresh_drawn (adds : Adds s next party log drawn) (secure : Secure s)
    {other : Party} {draw : ℕ} (drew : .drew draw ∈ next.log other) :
    draw < next.draws := by
  rw [adds.draws]
  rcases adds.grows.mem_iff.mp drew with before | ⟨-, now⟩
  · have := secure.drawn other draw before
    omega
  · exact (adds.draw_within draw now).2

theorem own (adds : Adds s next party log drawn) (secure : Secure s)
    {first second : Party} {draw : ℕ} (drewFirst : .drew draw ∈ next.log first)
    (drewSecond : .drew draw ∈ next.log second) : first = second := by
  rcases adds.grows.mem_iff.mp drewFirst with before | ⟨rfl, now⟩
  · rcases adds.grows.mem_iff.mp drewSecond with also | ⟨rfl, now⟩
    · exact secure.own first second draw before also
    · have := secure.drawn first draw before
      have := (adds.draw_within draw now).1
      omega
  · rcases adds.grows.mem_iff.mp drewSecond with before | ⟨rfl, -⟩
    · have := secure.drawn second draw before
      have := (adds.draw_within draw now).1
      omega
    · rfl

theorem observed_rand (adds : Adds s next party log drawn) {draw index : ℕ}
    (seen : next.Observed (.rand draw index)) :
    s.Observed (.rand draw index) ∨ (draw = s.draws ∧ 0 < drawn) :=
  (adds.grows.observed_iff.mp seen).imp_right
    fun ⟨frame, sent, member⟩ => adds.shown frame sent draw index member

theorem escrow (adds : Adds s next party log drawn) (secure : Secure s)
    {sessionKey : List Symbol} (escrowed : next.Escrowed sessionKey) :
    ∃ draw < next.draws, sessionKey = SymByte.fresh aesKeySize draw ∧
      ∀ index, ¬ next.Observed (.rand draw index) := by
  rw [adds.draws]
  rcases adds.grows.escrowed_cases escrowed with before | ⟨sessionId, now⟩
  · obtain ⟨draw, below, same, hidden⟩ := secure.escrow sessionKey before
    refine ⟨draw, by omega, same, ?_⟩
    intro index seen
    rcases adds.observed_rand seen with already | ⟨fresh, -⟩
    · exact hidden index already
    · omega
  · obtain ⟨same, three⟩ := adds.done sessionId sessionKey now
    refine ⟨s.draws + 1, by omega, same, ?_⟩
    intro index seen
    rcases adds.observed_rand seen with already | ⟨fresh, -⟩
    · have := secure.shown _ _ already
      omega
    · omega

theorem secure (adds : Adds s next party log drawn) (secure : Secure s)
    (clients : ∀ run ∈ next.clients, ClientStory run.point run.log)
    (servers : ∀ run ∈ next.servers, ServerStory run.point run.log)
    (serverSigned : ∀ run ∈ next.clients, ∀ nonces ∈ run.point.nonces,
      ∃ party, .signed .server (nonces.1 ++ nonces.2) ∈ s.log party)
    (clientSigned : ∀ run ∈ next.servers, ∀ nonceC nonceS keys,
      run.point = .returned nonceC nonceS keys →
        ∃ party, .signed .client (nonceS ++ nonceC) ∈ s.log party) :
    Secure next where
  drawn other draw drew := adds.fresh_drawn secure drew
  own first second draw := adds.own secure
  shown := by
    intro draw index seen
    rw [adds.draws]
    rcases adds.observed_rand seen with before | ⟨rfl, some⟩
    · have := secure.shown draw index before
      omega
    · omega
  exposed := by
    intro byte seen
    rcases adds.grows.observed_iff.mp seen with before | ⟨frame, sent, member⟩
    · exact adds.grows.shows (secure.exposed byte before)
    · exact adds.shows frame sent byte member
  escrow sessionKey := adds.escrow secure
  heard := by
    intro other frame received byte member
    rcases adds.grows.mem_iff.mp received with before | ⟨-, now⟩
    · exact adds.grows.knows (secure.heard other frame before byte member)
    · exact adds.grows.knows (adds.known frame now byte member)
  clients := clients
  servers := servers
  serverSigned := by
    intro run here nonces holds
    obtain ⟨other, signed⟩ := serverSigned run here nonces holds
    exact ⟨other, adds.grows.keeps signed⟩
  clientSigned := by
    intro run here nonceC nonceS keys returned
    obtain ⟨other, signed⟩ := clientSigned run here nonceC nonceS keys returned
    exact ⟨other, adds.grows.keeps signed⟩

end Adds

theorem Secure.move {s next : NetworkState} (secure : Secure s)
    (move : NetworkMove s next) : Secure next := by
  cases move with
  | newClient =>
      have adds : Adds s s.newClient _ [] 0 :=
        .none (extends_newClient s (.client 0)) rfl
      refine adds.secure secure ?_ secure.servers ?_ secure.clientSigned
      · intro run here
        rcases List.mem_append.mp here with before | isNew
        · exact secure.clients run before
        · cases List.mem_singleton.mp isNew
          exact .start
      · intro run here nonces holds
        rcases List.mem_append.mp here with before | isNew
        · exact secure.serverSigned run before nonces holds
        · cases List.mem_singleton.mp isNew
          cases holds
  | newServer =>
      have adds : Adds s s.newServer _ [] 0 :=
        .none (extends_newServer s (.client 0)) rfl
      refine adds.secure secure secure.clients ?_ secure.serverSigned ?_
      · intro run here
        rcases List.mem_append.mp here with before | isNew
        · exact secure.servers run before
        · cases List.mem_singleton.mp isNew
          exact .start
      · intro run here nonceC nonceS keys returned
        rcases List.mem_append.mp here with before | isNew
        · exact secure.clientSigned run before nonceC nonceS keys returned
        · cases List.mem_singleton.mp isNew
          cases returned
  | @client index run after log drawn here move known =>
      have member := List.mem_of_getElem? here
      have story := secure.clients run member
      have grows := extends_client (s.draws + drawn) here after log
      have ownStory : ClientStory run.point (logAt s.clients index) :=
        (logAt_eq here).symm ▸ story
      refine Adds.secure
        { grows
          draws := rfl
          draw_within := fun _ => move.drawn_within
          shown := fun _ sent _ _ => move.shown sent
          shows := fun _ sent _ => move.shows secure grows ownStory known sent
          done := fun _ _ sent => absurd sent move.not_sentDone
          known } secure ?_ secure.servers ?_ secure.clientSigned
      · intro other otherHere
        rcases List.mem_or_eq_of_mem_set otherHere with before | rfl
        · exact secure.clients other before
        · exact story.move move
      · intro other otherHere nonces holds
        rcases List.mem_or_eq_of_mem_set otherHere with before | rfl
        · exact secure.serverSigned other before nonces holds
        · rcases move.nonces holds with earlier | ⟨frame, clock, heard, accepted⟩
          · exact secure.serverSigned run member nonces earlier
          · obtain ⟨-, sh, -, -, sigS, decoded, -, -, -, read, -, verified, -⟩ :=
              readServerHello_eq_ok.mp accepted
            exact secure.signed_of_verify server_honest verified
              (s.knows_of_getHex (known frame heard) decoded read)
  | @server index run after log drawn here move known =>
      have member := List.mem_of_getElem? here
      have story := secure.servers run member
      have grows := extends_server (s.draws + drawn) here after log
      refine Adds.secure
        { grows
          draws := rfl
          draw_within := fun _ => move.drawn_within
          shown := fun _ sent _ _ => move.shown sent
          shows := fun _ sent _ => move.shows secure grows known sent
          done := fun _ _ => move.sentDone
          known } secure secure.clients ?_ secure.serverSigned ?_
      · intro other otherHere
        rcases List.mem_or_eq_of_mem_set otherHere with before | rfl
        · exact secure.servers other before
        · exact story.move move
      · intro other otherHere nonceC nonceS keys returned
        rcases List.mem_or_eq_of_mem_set otherHere with before | rfl
        · exact secure.clientSigned other before nonceC nonceS keys returned
        · obtain ⟨frame, challengeResponse, sigC, heard, accepted, verified⟩ :=
            move.returned returned
          obtain ⟨-, cr, decoded, -, read⟩ :=
            readClientResponse_eq_ok.mp accepted
          exact secure.signed_of_verify client_honest verified
            (s.knows_of_getHex (known frame heard) decoded read)

theorem Secure.of_run {s : NetworkState} {events : List NetworkEvent}
    (along : Along networkStep Forgeable .start events)
    (reached : run networkStep .start events = some s) : Secure s :=
  run_invariant_along
    (fun _ _ _ secure allowed stepped =>
      secure.move (networkStep_move allowed stepped)) along reached .start

end VpnTunnel.Auth
