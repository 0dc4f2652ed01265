import VpnTunnel.Auth.Agreement

namespace VpnTunnel.Auth

open VpnTunnel.Crypto
open VpnTunnel.Foundation

/-! What a long-term private key gives away when it leaks after the sessions.  The
attacker of the runs has neither key; afterwards he reads all that was sent with
one of them. -/

def KeyHolder.CorruptAfter (leaked holder : KeyHolder) : Prop :=
  holder.Corrupt ∨ holder = leaked

def NetworkState.KnowsAfter (s : NetworkState) (leaked : KeyHolder)
    (byte : Symbol) : Prop :=
  Derives leaked.CorruptAfter s.Observed byte

/-- The session key and everything derived from it with the session id. -/
def sessionSecrets (sessionId sessionKey : List Symbol) : List Symbol :=
  sessionKey ++ ((handshakeKeys idealSuite sessionId sessionKey).encKey ++
    (handshakeKeys idealSuite sessionId sessionKey).macKey)

/-- What is public before the leak stays within what is escrowed with the client. -/
theorem Secure.shows_after_server {s : NetworkState} (secure : Secure s)
    {byte : Symbol} (known : s.KnowsAfter .server byte) :
    Public (KeyHolder.CorruptAfter .server)
      { s.disclosure with known := s.KnowsAfter .server } byte := by
  have within : s.disclosure.Within
      { s.disclosure with known := s.KnowsAfter .server } :=
    { draws := fun _ drawn => drawn
      signed := fun _ _ signed => signed
      escrowed := fun _ _ escrowed => escrowed
      known := fun _ derived => derived.wider fun _ => .inl }
  apply Derives.public _ (fun _ derived => derived) known
  intro byte seen
  apply (secure.exposed byte seen).wider (fun _ => .inl) within
  rintro owner plaintext ⟨rfl, -⟩ (corrupt | isServer)
  · exact client_honest corrupt
  · cases isServer

theorem Secure.not_knows_after_server {s : NetworkState} (secure : Secure s)
    {sessionId sessionKey : List Symbol} (escrowed : s.Escrowed sessionKey) :
    ∀ byte ∈ sessionSecrets sessionId sessionKey,
      ¬ s.KnowsAfter .server byte := by
  obtain ⟨draw, -, rfl, hidden⟩ := secure.escrow sessionKey escrowed
  have ofKey : ∀ index, ¬ s.KnowsAfter .server (.rand draw index) := by
    intro index known
    obtain ⟨place, seen⟩ := (secure.shows_after_server known).draws_of_rand
    exact hidden place seen
  intro byte member known
  rcases List.mem_append.mp member with inKey | inDerived
  · obtain ⟨index, -, rfl⟩ := SymByte.mem_fresh.mp inKey
    exact ofKey index known
  · obtain ⟨info, index, rfl⟩ := mem_handshakeKeys inDerived
    have fromKey := (secure.shows_after_server known).secret_of_kdf
    have first : (.rand draw 0 : Symbol) ∈ SymByte.fresh aesKeySize draw :=
      SymByte.mem_fresh.mpr ⟨0, by decide, rfl⟩
    obtain ⟨place, seen⟩ := (fromKey _ first).draws_of_rand
    exact hidden place seen

theorem NetworkState.knows_after_client {s : NetworkState} {index : ℕ}
    {sessionId sessionKey : List Symbol}
    (sent : SentDone (s.log (.server index)) sessionId sessionKey) :
    ∀ byte ∈ sessionSecrets sessionId sessionKey,
      s.KnowsAfter .client byte := by
  obtain ⟨seed, sent⟩ := sent
  have shown : ∀ byte ∈ sessionId ++ idealSuite.encrypt .client sessionKey seed,
      s.KnowsAfter .client byte := by
    intro byte member
    refine .observed ⟨.server index, _, sent, ?_⟩
    rwa [serverDonePayload_bytes]
  have ofKey : ∀ byte ∈ sessionKey, s.KnowsAfter .client byte := by
    intro byte member
    have first : .sealed .client sessionKey seed 0 ∈
        idealSuite.encrypt .client sessionKey seed :=
      mem_encrypt.mpr ⟨0, by decide, rfl⟩
    exact .decrypt (.inr rfl) (shown _ (List.mem_append_right _ first)) member
  intro byte member
  rcases List.mem_append.mp member with inKey | inDerived
  · exact ofKey byte inKey
  · obtain ⟨info, index, rfl⟩ := mem_handshakeKeys inDerived
    refine .kdf index ofKey
      (fun byte inId => shown byte (List.mem_append_left _ inId)) ?_
    intro byte inInfo
    obtain ⟨literal, -, rfl⟩ := List.mem_map.mp inInfo
    exact .lit literal

/-- The sessions of any run are forward secret against the server's long-term key
and against no other: of a session key that a server run has sent, nothing becomes
known when the server's private key leaks, and everything, the derived keys with
it, when the client's does. -/
theorem session_keys_after_leak {events : List NetworkEvent} {s : NetworkState}
    (along : Along networkStep Forgeable .start events)
    (reached : run networkStep .start events = some s) {index : ℕ}
    {sessionId sessionKey : List Symbol}
    (sent : SentDone (s.log (.server index)) sessionId sessionKey) :
    (∀ byte ∈ sessionSecrets sessionId sessionKey,
      ¬ s.KnowsAfter .server byte) ∧
    ∀ byte ∈ sessionSecrets sessionId sessionKey, s.KnowsAfter .client byte := by
  have secure := Secure.of_run along reached
  constructor
  · exact secure.not_knows_after_server ⟨index, sessionId, sent⟩
  · exact NetworkState.knows_after_client sent

theorem session_keys_after_leak_sample :
    ∃ s sessionKey, run networkStep .start sampleHandshake = some s ∧
      SentDone (s.log (.server 0)) sampleKeys.sessionId sessionKey ∧
      (∀ byte ∈ sampleKeys.encKey, ¬ s.KnowsAfter .server byte) ∧
      ∀ byte ∈ sampleKeys.encKey, s.KnowsAfter .client byte := by
  obtain ⟨s, client, server, reached, -, here, -, returned⟩ :=
    sampleHandshake_returns
  have secure := Secure.of_run sampleHandshake_along reached
  obtain ⟨draw, derived, sent⟩ :=
    (secure.servers server (List.mem_of_getElem? here)).finished _ _ _ returned
  rw [← log_server here] at sent
  have law := session_keys_after_leak sampleHandshake_along reached sent
  have inside : ∀ byte ∈ sampleKeys.encKey,
      byte ∈ sessionSecrets sampleKeys.sessionId
        (SymByte.fresh aesKeySize draw) := by
    intro byte member
    rw [derived] at member
    exact List.mem_append_right _ (List.mem_append_left _ member)
  exact ⟨s, _, reached, sent, fun byte member => law.1 byte (inside byte member),
    fun byte member => law.2 byte (inside byte member)⟩

end VpnTunnel.Auth
