import VpnTunnel.Auth.Secrecy

namespace VpnTunnel.Auth

open VpnTunnel.Crypto
open VpnTunnel.Foundation

/-! What the invariant says about a run that returns. -/

theorem log_client {s : NetworkState} {index : ℕ}
    {run : ClientRun Symbol KeyHolder} (here : s.clients[index]? = some run) :
    s.log (.client index) = run.log :=
  logAt_eq here

theorem log_server {s : NetworkState} {index : ℕ}
    {run : ServerRun Symbol KeyHolder} (here : s.servers[index]? = some run) :
    s.log (.server index) = run.log :=
  logAt_eq here

theorem NetworkState.mem_log_client {s : NetworkState} {index : ℕ}
    {action : Action Symbol KeyHolder} (member : action ∈ s.log (.client index)) :
    ∃ run, s.clients[index]? = some run ∧ action ∈ run.log := by
  unfold log logAt at member
  cases here : s.clients[index]? with
  | none => simp [here] at member
  | some run => exact ⟨run, rfl, by simpa [here] using member⟩

theorem NetworkState.mem_log_server {s : NetworkState} {index : ℕ}
    {action : Action Symbol KeyHolder} (member : action ∈ s.log (.server index)) :
    ∃ run, s.servers[index]? = some run ∧ action ∈ run.log := by
  unfold log logAt at member
  cases here : s.servers[index]? with
  | none => simp [here] at member
  | some run => exact ⟨run, rfl, by simpa [here] using member⟩

namespace Secure

variable {s : NetworkState}

theorem signed_by_client (secure : Secure s) {party : Party}
    {data : List Symbol} (signed : .signed .client data ∈ s.log party) :
    ∃ run ∈ s.clients, .signed .client data ∈ run.log := by
  cases party with
  | client index =>
      obtain ⟨run, here, member⟩ := s.mem_log_client signed
      exact ⟨run, List.mem_of_getElem? here, member⟩
  | server index =>
      obtain ⟨run, here, member⟩ := s.mem_log_server signed
      have story := secure.servers run (List.mem_of_getElem? here)
      cases (story.signed _ _ member).1

theorem signed_by_server (secure : Secure s) {party : Party}
    {data : List Symbol} (signed : .signed .server data ∈ s.log party) :
    ∃ run ∈ s.servers, .signed .server data ∈ run.log := by
  cases party with
  | client index =>
      obtain ⟨run, here, member⟩ := s.mem_log_client signed
      have story := secure.clients run (List.mem_of_getElem? here)
      cases (story.once _ _ _ _ member member).1
  | server index =>
      obtain ⟨run, here, member⟩ := s.mem_log_server signed
      exact ⟨run, List.mem_of_getElem? here, member⟩

theorem server_of_escrowed {sessionKey : List Symbol}
    (escrowed : s.Escrowed sessionKey) :
    ∃ run ∈ s.servers, ∃ sessionId, SentDone run.log sessionId sessionKey := by
  obtain ⟨index, sessionId, seed, sent⟩ := escrowed
  obtain ⟨run, here, member⟩ := s.mem_log_server sent
  exact ⟨run, List.mem_of_getElem? here, sessionId, seed, member⟩

theorem server_of_nonce (secure : Secure s) {index other : ℕ}
    {run otherRun : ServerRun Symbol KeyHolder}
    (here : s.servers[index]? = some run)
    (otherHere : s.servers[other]? = some otherRun)
    {nonceC otherC nonceS : List Symbol}
    (nonces : run.point.nonces = some (nonceC, nonceS))
    (otherNonces : otherRun.point.nonces = some (otherC, nonceS)) :
    other = index := by
  obtain ⟨draw, same, drew⟩ :=
    (secure.servers run (List.mem_of_getElem? here)).answered _ nonces
  obtain ⟨otherDraw, otherSame, otherDrew⟩ :=
    (secure.servers otherRun (List.mem_of_getElem? otherHere)).answered _
      otherNonces
  have shared : draw = otherDraw :=
    SymByte.fresh_injective (by decide) (same.symm.trans otherSame)
  subst shared
  rw [← log_server otherHere] at otherDrew
  rw [← log_server here] at drew
  cases secure.own _ _ draw otherDrew drew
  rfl

theorem length_of_answered (secure : Secure s)
    {run : ServerRun Symbol KeyHolder} (here : run ∈ s.servers)
    {nonceC nonceS : List Symbol}
    (nonces : run.point.nonces = some (nonceC, nonceS)) :
    nonceS.length = nonceSize := by
  obtain ⟨draw, rfl, -⟩ := (secure.servers run here).answered _ nonces
  exact SymByte.length_fresh nonceSize draw

end Secure

theorem mem_handshakeKeys {sessionId sessionKey : List Symbol} {byte : Symbol}
    (member : byte ∈ (handshakeKeys idealSuite sessionId sessionKey).encKey ++
      (handshakeKeys idealSuite sessionId sessionKey).macKey) :
    ∃ info : List UInt8, ∃ index,
      byte = .kdf sessionKey sessionId (info.map .lit) index := by
  simp only [handshakeKeys, Suite.deriveKeys, List.take_append_drop] at member
  obtain ⟨index, -, rfl⟩ := SymByte.mem_block.mp member
  exact ⟨encodeUtf8 "vpn-tunnel-keys", index, rfl⟩

namespace Secure

variable {s : NetworkState}

/-- The server run behind a ServerHello that a client run has accepted: the two
sides cut the signed bytes at the same two nonces, with possibly more between
them. -/
theorem server_of_accepted (secure : Secure s)
    {client : ClientRun Symbol KeyHolder} (here : client ∈ s.clients)
    {nonceC nonceS : List Symbol}
    (holds : client.point.nonceC = some nonceC)
    (accepted : client.point.nonces = some (nonceC, nonceS)) :
    ∃ server ∈ s.servers, ∃ extra ownNonce,
      ReceivedHello server.log (nonceC ++ extra) ∧
      SentHello server.log ownNonce ∧ nonceS = extra ++ ownNonce ∧
      ownNonce.length = nonceSize := by
  obtain ⟨draw, clock, rfl, drew, -⟩ :=
    (secure.clients client here).hello nonceC holds
  obtain ⟨party, signed⟩ :=
    secure.serverSigned client here (nonce draw, nonceS) accepted
  obtain ⟨server, serverHere, signed⟩ := secure.signed_by_server signed
  obtain ⟨-, ownNonceC, ownDraw, same, ownDrew, received, sent⟩ :=
    (secure.servers server serverHere).signed _ _ signed
  have distinct : draw ≠ ownDraw := by
    rintro rfl
    obtain ⟨index, clientAt⟩ := List.getElem?_of_mem here
    obtain ⟨place, serverAt⟩ := List.getElem?_of_mem serverHere
    rw [← log_client clientAt] at drew
    rw [← log_server serverAt] at ownDrew
    cases secure.own _ _ draw drew ownDrew
  obtain ⟨extra, rfl, rfl⟩ := SymByte.split_of_fresh_append distinct same
  exact ⟨server, serverHere, extra, nonce ownDraw, received, sent, rfl,
    SymByte.length_fresh nonceSize ownDraw⟩

theorem server_of_nonces (secure : Secure s)
    {client : ClientRun Symbol KeyHolder} (here : client ∈ s.clients)
    {nonceC nonceS : List Symbol}
    (holds : client.point.nonceC = some nonceC)
    (accepted : client.point.nonces = some (nonceC, nonceS))
    (size : nonceS.length = nonceSize) :
    ∃ server ∈ s.servers,
      ReceivedHello server.log nonceC ∧ SentHello server.log nonceS := by
  obtain ⟨server, serverHere, extra, ownNonce, received, sent, rfl, ownSize⟩ :=
    secure.server_of_accepted here holds accepted
  rw [List.length_append, ownSize] at size
  cases List.eq_nil_of_length_eq_zero (Nat.add_eq_right.mp size)
  rw [List.append_nil] at received
  exact ⟨server, serverHere, received, sent⟩

theorem sentDone_of_read (secure : Secure s)
    {server : ServerRun Symbol KeyHolder} (here : server ∈ s.servers)
    {frame : Frame Symbol} (sent : .sent frame ∈ server.log)
    {sessionId sessionKey : List Symbol}
    (read : readServerDone idealSuite .client frame =
      .ok (sessionId, sessionKey)) :
    SentDone server.log sessionId sessionKey := by
  obtain ⟨isDone, sd, encrypted, decoded, sidRead, encryptedRead, decrypted⟩ :=
    readServerDone_eq_ok.mp read
  obtain ⟨ownId, ownKey, seed, payload⟩ :=
    (secure.servers server here).done frame sent isDone
  rw [payload] at decoded
  cases decoded
  cases sidRead
  cases encryptedRead
  obtain ⟨otherSeed, same⟩ := decrypt_eq_some.mp decrypted
  rw [encrypt_injective same] at payload
  refine ⟨seed, ?_⟩
  rw [← payload, ← isDone]
  exact sent

end Secure

/-- Whenever `server_handshake` returns, a client run has signed this server
run's nonces and nothing that another returned server run took for its own, and
the session key that the server run generated is not known. -/
theorem server_run_authenticated {events : List NetworkEvent} {s : NetworkState}
    (along : Along networkStep Forgeable .start events)
    (reached : run networkStep .start events = some s)
    {index : ℕ} {server : ServerRun Symbol KeyHolder}
    (here : s.servers[index]? = some server)
    {nonceC nonceS : List Symbol} {keys : HandshakeKeys Symbol}
    (returned : server.point = .returned nonceC nonceS keys) :
    (∃ client ∈ s.clients, .signed .client (nonceS ++ nonceC) ∈ client.log) ∧
    (∀ client ∈ s.clients, .signed .client (nonceS ++ nonceC) ∈ client.log →
      ∀ other otherServer otherC otherS otherKeys,
        s.servers[other]? = some otherServer →
        otherServer.point = .returned otherC otherS otherKeys →
        .signed .client (otherS ++ otherC) ∈ client.log → other = index) ∧
    ∃ sessionKey, SentDone server.log keys.sessionId sessionKey ∧
      keys = handshakeKeys idealSuite keys.sessionId sessionKey ∧
      sessionKey.length = aesKeySize ∧ ∀ byte ∈ sessionKey, ¬ s.Knows byte := by
  have secure := Secure.of_run along reached
  have member := List.mem_of_getElem? here
  have nonces : server.point.nonces = some (nonceC, nonceS) := by
    rw [returned]
    rfl
  refine ⟨?_, ?_, ?_⟩
  · obtain ⟨party, signed⟩ :=
      secure.clientSigned server member nonceC nonceS keys returned
    exact secure.signed_by_client signed
  · intro client clientHere signed other otherServer otherC otherS otherKeys
      otherHere otherReturned otherSigned
    have otherNonces : otherServer.point.nonces = some (otherC, otherS) := by
      rw [otherReturned]
      rfl
    have same : otherS ++ otherC = nonceS ++ nonceC :=
      ((secure.clients client clientHere).once _ _ _ _ signed otherSigned).2
    have size := secure.length_of_answered member nonces
    have otherSize := secure.length_of_answered
      (List.mem_of_getElem? otherHere) otherNonces
    obtain ⟨rfl, -⟩ := List.append_inj same (otherSize.trans size.symm)
    exact secure.server_of_nonce here otherHere nonces otherNonces
  · obtain ⟨draw, derived, done⟩ :=
      (secure.servers server member).finished nonceC nonceS keys returned
    have escrowed : s.Escrowed (SymByte.fresh aesKeySize draw) :=
      ⟨index, keys.sessionId, (log_server here).symm ▸ done⟩
    exact ⟨_, done, derived, SymByte.length_fresh aesKeySize draw,
      secure.not_knows_escrowed escrowed⟩

/-! A run in which all frames are delivered as they were sent. -/

def sampleHello : Frame Symbol :=
  { msgType := .handshakeClientHello
    payload := clientHelloPayload (nonce 0) 0 }

def sampleServerHello : Frame Symbol :=
  { msgType := .handshakeServerHello
    payload := serverHelloPayload (nonce 1) 0
      (idealSuite.computeHmac (nonce 0 ++ nonce 1) idealSuite.challengeKey)
      (idealSuite.sign .server (nonce 0 ++ nonce 1)
        (idealSuite.urandom 2 pssSaltSize)) }

def sampleResponse : Frame Symbol :=
  { msgType := .handshakeClientResponse
    payload := clientResponsePayload
      (idealSuite.computeHmac (nonce 1 ++ nonce 0) idealSuite.challengeKey)
      (idealSuite.sign .client (nonce 1 ++ nonce 0)
        (idealSuite.urandom 3 pssSaltSize)) }

def sampleDone : Frame Symbol :=
  { msgType := .handshakeServerDone
    payload := serverDonePayload (idealSuite.urandom 4 sessionIdSize)
      (idealSuite.encrypt .client (idealSuite.urandom 5 aesKeySize)
        (idealSuite.urandom 6 oaepSeedSize)) }

def sampleOpening : List NetworkEvent :=
  [.newClient, .newServer, .client 0 (.start 0 none),
    .server 0 (.clientHello (.ok sampleHello) 0 0 none),
    .client 0 (.serverHello (.ok sampleServerHello) 0 none)]

def sampleHandshake : List NetworkEvent :=
  sampleOpening ++ [.server 0 (.clientResponse (.ok sampleResponse) none),
    .client 0 (.serverDone (.ok sampleDone))]

def sampleKeys : HandshakeKeys Symbol :=
  handshakeKeys idealSuite (idealSuite.urandom 4 sessionIdSize)
    (idealSuite.urandom 5 aesKeySize)

theorem sampleHandshake_along :
    Along networkStep Forgeable .start sampleHandshake := by
  have buildable : Along networkStep Buildable .start sampleHandshake := by
    decide +kernel
  exact buildable.mono fun _ _ => Buildable.forgeable

theorem sampleHandshake_returns :
    ∃ s client server, run networkStep .start sampleHandshake = some s ∧
      s.clients[0]? = some client ∧ s.servers[0]? = some server ∧
      client.point = .returned (nonce 0) (nonce 1) sampleKeys ∧
      server.point = .returned (nonce 0) (nonce 1) sampleKeys := by
  have ran : (run networkStep .start sampleHandshake).map (fun s =>
      (s.clients[0]?.map Run.point, s.servers[0]?.map Run.point)) =
      some (some (.returned (nonce 0) (nonce 1) sampleKeys),
        some (.returned (nonce 0) (nonce 1) sampleKeys)) := by
    decide +kernel
  obtain ⟨s, reached, view⟩ := Option.map_eq_some_iff.mp ran
  obtain ⟨clientView, serverView⟩ := Prod.mk.inj view
  obtain ⟨client, clientHere, clientPoint⟩ :=
    Option.map_eq_some_iff.mp clientView
  obtain ⟨server, serverHere, serverPoint⟩ :=
    Option.map_eq_some_iff.mp serverView
  exact ⟨s, client, server, reached, clientHere, serverHere, clientPoint,
    serverPoint⟩

theorem server_run_authenticated_sample :
    ∃ s client sessionKey, run networkStep .start sampleHandshake = some s ∧
      client ∈ s.clients ∧
      .signed .client (nonce 1 ++ nonce 0) ∈ client.log ∧
      sampleKeys = handshakeKeys idealSuite sampleKeys.sessionId sessionKey ∧
      ∀ byte ∈ sessionKey, ¬ s.Knows byte := by
  obtain ⟨s, -, server, reached, -, here, -, returned⟩ := sampleHandshake_returns
  obtain ⟨⟨client, clientHere, signed⟩, -, sessionKey, -, derived, -, hidden⟩ :=
    server_run_authenticated sampleHandshake_along reached here returned
  exact ⟨s, client, sessionKey, reached, clientHere, signed, derived, hidden⟩

/-- Whenever `client_handshake` returns, its keys are derived from the session
key in the ServerDone it received, and they are unknown exactly if a server run
made that session key. -/
theorem client_run_agreement {events : List NetworkEvent} {s : NetworkState}
    (along : Along networkStep Forgeable .start events)
    (reached : run networkStep .start events = some s)
    {client : ClientRun Symbol KeyHolder} (here : client ∈ s.clients)
    {nonceC nonceS : List Symbol} {keys : HandshakeKeys Symbol}
    (returned : client.point = .returned nonceC nonceS keys) :
    (nonceS.length = nonceSize → ∃ server ∈ s.servers,
      ReceivedHello server.log nonceC ∧ SentHello server.log nonceS) ∧
    ∃ frame sessionKey, .received frame ∈ client.log ∧
      readServerDone idealSuite .client frame =
        .ok (keys.sessionId, sessionKey) ∧
      keys = handshakeKeys idealSuite keys.sessionId sessionKey ∧
      (∀ server ∈ s.servers, .sent frame ∈ server.log →
        SentDone server.log keys.sessionId sessionKey) ∧
      ((∃ server ∈ s.servers, ∃ sessionId,
          SentDone server.log sessionId sessionKey) ∧
        (∀ byte ∈ keys.encKey ++ keys.macKey, ¬ s.Knows byte) ∨
      (∀ byte ∈ sessionKey ++ keys.encKey ++ keys.macKey, s.Knows byte)) := by
  have secure := Secure.of_run along reached
  have holds : client.point.nonceC = some nonceC := by
    rw [returned]
    rfl
  have accepted : client.point.nonces = some (nonceC, nonceS) := by
    rw [returned]
    rfl
  refine ⟨secure.server_of_nonces here holds accepted, ?_⟩
  obtain ⟨frame, sessionKey, received, read, derived⟩ :=
    (secure.clients client here).finished keys (by rw [returned]; rfl)
  refine ⟨frame, sessionKey, received, read, derived,
    fun server serverHere sent => secure.sentDone_of_read serverHere sent read,
    ?_⟩
  obtain ⟨-, sd, encrypted, decoded, sidRead, encryptedRead, decrypted⟩ :=
    readServerDone_eq_ok.mp read
  obtain ⟨index, clientAt⟩ := List.getElem?_of_mem here
  have known := secure.heard (.client index) frame
    (by rw [log_client clientAt]; exact received)
  have sidKnown := s.knows_of_getHex known decoded sidRead
  rcases secure.origin_of_decrypt decrypted
    (s.knows_of_getHex known decoded encryptedRead) with keyKnown | escrowed
  · right
    intro byte member
    rw [List.append_assoc, List.mem_append] at member
    rcases member with inKey | inDerived
    · exact keyKnown byte inKey
    · rw [derived] at inDerived
      obtain ⟨info, place, rfl⟩ := mem_handshakeKeys inDerived
      refine .kdf place keyKnown sidKnown ?_
      intro byte inInfo
      obtain ⟨value, -, rfl⟩ := List.mem_map.mp inInfo
      exact .lit value
  · left
    refine ⟨Secure.server_of_escrowed escrowed, ?_⟩
    intro byte member
    rw [derived] at member
    obtain ⟨info, place, rfl⟩ := mem_handshakeKeys member
    exact secure.not_knows_derived escrowed _ _ place

theorem client_run_agreement_sample :
    ∃ s server, run networkStep .start sampleHandshake = some s ∧
      server ∈ s.servers ∧ ReceivedHello server.log (nonce 0) ∧
      SentHello server.log (nonce 1) := by
  obtain ⟨s, client, -, reached, here, -, returned, -⟩ := sampleHandshake_returns
  obtain ⟨server, serverHere, received, sent⟩ :=
    (client_run_agreement sampleHandshake_along reached
      (List.mem_of_getElem? here) returned).1 (SymByte.length_fresh nonceSize 1)
  exact ⟨s, server, reached, serverHere, received, sent⟩

/-- The attacker seals a session key of his own for the client. -/
def sampleForged : Frame Symbol :=
  { msgType := .handshakeServerDone
    payload := serverDonePayload (List.replicate sessionIdSize (.lit 0))
      (idealSuite.encrypt .client (List.replicate aesKeySize (.lit 0)) []) }

def sampleInjection : List NetworkEvent :=
  sampleOpening ++ [.client 0 (.serverDone (.ok sampleForged))]

/-- A server run that received this nonce put these keys' session id and session
key into its ServerDone, and the attacker does not know the keys. -/
def NetworkState.Agreed (s : NetworkState) (nonceC : List Symbol)
    (keys : HandshakeKeys Symbol) : Prop :=
  ∃ server ∈ s.servers, ReceivedHello server.log nonceC ∧
    (∃ sessionKey, SentDone server.log keys.sessionId sessionKey ∧
      keys = handshakeKeys idealSuite keys.sessionId sessionKey) ∧
    ∀ byte ∈ keys.encKey ++ keys.macKey, ¬ s.Knows byte

def Action.isServerDone (action : Action Symbol KeyHolder) : Bool :=
  match action with
  | .sent frame => frame.msgType = .handshakeServerDone
  | _ => false

theorem client_keys_injected :
    ¬ ∀ (events : List NetworkEvent) (s : NetworkState),
      Along networkStep Forgeable .start events →
      run networkStep .start events = some s →
      ∀ client ∈ s.clients, ∀ nonceC nonceS keys,
        client.point = .returned nonceC nonceS keys → s.Agreed nonceC keys := by
  intro claimed
  have buildable : Along networkStep Buildable .start sampleInjection := by
    decide +kernel
  have ran : (run networkStep .start sampleInjection).map (fun s =>
      (s.clients[0]?.map Run.point,
        s.servers.map fun server => server.log.filter Action.isServerDone)) =
      some (some (.returned (nonce 0) (nonce 1)
        (handshakeKeys idealSuite (List.replicate sessionIdSize (.lit 0))
          (List.replicate aesKeySize (.lit 0)))), [[]]) := by
    decide +kernel
  obtain ⟨s, reached, view⟩ := Option.map_eq_some_iff.mp ran
  obtain ⟨clientView, serverView⟩ := Prod.mk.inj view
  obtain ⟨client, here, returned⟩ := Option.map_eq_some_iff.mp clientView
  obtain ⟨server, serverHere, -, ⟨sessionKey, ⟨seed, sent⟩, -⟩, -⟩ :=
    claimed sampleInjection s (buildable.mono fun _ _ => Buildable.forgeable)
      reached client (List.mem_of_getElem? here) _ _ _ returned
  have noDone := List.mem_map_of_mem
    (f := fun server => server.log.filter Action.isServerDone) serverHere
  rw [serverView, List.mem_singleton] at noDone
  exact absurd (List.mem_filter.mpr ⟨sent, rfl⟩) (noDone ▸ List.not_mem_nil)

/-! The nonces behind the server's signature. -/

/-- The server runs that signed these bytes, and there is one, have cut them into
the same two nonces. -/
def NetworkState.NoncesAgree (s : NetworkState) (nonceC nonceS : List Symbol) :
    Prop :=
  (∃ server ∈ s.servers,
    ReceivedHello server.log nonceC ∧ SentHello server.log nonceS) ∧
  ∀ server ∈ s.servers, .signed .server (nonceC ++ nonceS) ∈ server.log →
    ReceivedHello server.log nonceC ∧ SentHello server.log nonceS

/-- A client run that answers a ServerHello agrees with the server run behind it
on the nonces exactly if the received `nonce_s` has its proper size. -/
theorem server_transcript_nonces {events : List NetworkEvent}
    {s : NetworkState} (along : Along networkStep Forgeable .start events)
    (reached : run networkStep .start events = some s)
    {client : ClientRun Symbol KeyHolder} (here : client ∈ s.clients)
    {nonceC nonceS : List Symbol}
    (accepted : client.point.nonces = some (nonceC, nonceS)) :
    s.NoncesAgree nonceC nonceS ↔ nonceS.length = nonceSize := by
  have secure := Secure.of_run along reached
  have holds : client.point.nonceC = some nonceC := by
    cases point : client.point <;> rw [point] at accepted <;> cases accepted <;>
      rfl
  constructor
  · rintro ⟨⟨server, serverHere, -, sent⟩, -⟩
    exact (secure.servers server serverHere).hello nonceS sent
  · intro size
    refine ⟨secure.server_of_nonces here holds accepted size, ?_⟩
    intro server serverHere signed
    obtain ⟨-, ownNonceC, draw, same, -, received, sent⟩ :=
      (secure.servers server serverHere).signed _ _ signed
    obtain ⟨rfl, rfl⟩ := List.append_inj' same
      (size.trans (SymByte.length_fresh nonceSize draw).symm)
    exact ⟨received, sent⟩

theorem server_transcript_nonces_sample :
    ∃ s, run networkStep .start sampleHandshake = some s ∧
      s.NoncesAgree (nonce 0) (nonce 1) := by
  obtain ⟨s, client, -, reached, here, -, returned, -⟩ := sampleHandshake_returns
  have accepted : client.point.nonces = some (nonce 0, nonce 1) := by
    rw [returned]
    rfl
  exact ⟨s, reached,
    (server_transcript_nonces sampleHandshake_along reached
      (List.mem_of_getElem? here) accepted).mpr
      (SymByte.length_fresh nonceSize 1)⟩

/-- The attacker moves a byte from one nonce to the other: he appends it to the
client's, and puts it before the server's. -/
def sampleShift : List NetworkEvent :=
  [.newClient, .newServer, .client 0 (.start 0 none),
    .server 0 (.clientHello
      (.ok
        { msgType := .handshakeClientHello
          payload := clientHelloPayload (nonce 0 ++ [.lit 0]) 0 }) 0 0 none),
    .client 0 (.serverHello
      (.ok
        { msgType := .handshakeServerHello
          payload := serverHelloPayload ([.lit 0] ++ nonce 1) 0
            (idealSuite.computeHmac (nonce 0 ++ [.lit 0] ++ nonce 1)
              idealSuite.challengeKey)
            (idealSuite.sign .server (nonce 0 ++ [.lit 0] ++ nonce 1)
              (idealSuite.urandom 2 pssSaltSize)) }) 0 none)]

theorem server_transcript_shifted :
    ¬ ∀ (events : List NetworkEvent) (s : NetworkState),
      Along networkStep Forgeable .start events →
      run networkStep .start events = some s →
      ∀ client ∈ s.clients, ∀ nonceC nonceS,
        client.point.nonces = some (nonceC, nonceS) →
          s.NoncesAgree nonceC nonceS := by
  intro claimed
  have buildable : Along networkStep Buildable .start sampleShift := by
    decide +kernel
  have ran : (run networkStep .start sampleShift).map (fun s =>
      (s.clients[0]?.map fun client => client.point.nonces)) =
      some (some (some (nonce 0, [.lit 0] ++ nonce 1))) := by
    decide +kernel
  have along := buildable.mono fun _ _ => Buildable.forgeable
  obtain ⟨s, reached, view⟩ := Option.map_eq_some_iff.mp ran
  obtain ⟨client, here, accepted⟩ := Option.map_eq_some_iff.mp view
  obtain ⟨⟨server, serverHere, -, sent⟩, -⟩ :=
    claimed sampleShift s along reached client (List.mem_of_getElem? here) _ _
      accepted
  have size :=
    ((Secure.of_run along reached).servers server serverHere).hello _ sent
  exact absurd size (by decide)

end VpnTunnel.Auth
